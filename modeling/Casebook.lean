import Casebook.Main
import Casebook.Proofs.RecordedKeys
import Casebook.Proofs.Registration
import Casebook.Proofs.CaseListRun
import Casebook.Proofs.Resolution
import Casebook.Proofs.StateRun
import Casebook.Proofs.StateInvariant
import Casebook.Proofs.Reading
import Casebook.Proofs.Fallback
import Casebook.Proofs.ArenaRun
import Casebook.Proofs.Refusals
import Casebook.Proofs.StandaloneStates
import Casebook.Proofs.HandleHistory
import Casebook.Proofs.SelectionRules
import Casebook.Proofs.RepeatedNames
import Casebook.Proofs.Children
import Casebook.Proofs.MatchByParts
import Casebook.Proofs.Occurrences
import Casebook.Proofs.Positions
import Casebook.Proofs.ApartParts
import Casebook.Proofs.Rearrangement
import Casebook.Proofs.Argument
import Casebook.Proofs.WrittenCase
import Casebook.Proofs.WritablePatterns
import Casebook.Proofs.DocumentReading
import Casebook.Proofs.KeptCases
import Casebook.Proofs.Contents
import Casebook.Proofs.EqualValues
import Casebook.Proofs.EarlierCaptures
import Casebook.Proofs.Columns
import Casebook.Proofs.Alternatives
import Casebook.Proofs.Regrouping
import Casebook.Proofs.Acceptance
import Casebook.Proofs.MalformedMatchers
import Casebook.Proofs.StructuralEquality
import Casebook.Proofs.JsonRoundTrip
import Casebook.Proofs.KeyOrder
import Casebook.Proofs.LaterCases
import Casebook.Proofs.OneInput
import Casebook.Proofs.SlotUse

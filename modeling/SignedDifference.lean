import SignedDifference.Main
import SignedDifference.Outcome.Exactness
import SignedDifference.Proofs.Generator.Operands
import SignedDifference.Proofs.Oracle.Composition
import SignedDifference.Proofs.Oracle.Expectations
import SignedDifference.Proofs.Oracle.Flips
import SignedDifference.Proofs.Oracle.Lockstep
import SignedDifference.Proofs.Oracle.Message
import SignedDifference.Proofs.Oracle.SuiteCheck
import SignedDifference.Proofs.Outcome.Excess
import SignedDifference.Proofs.Outcome.Recovery
import SignedDifference.Proofs.Outcome.Representation
import SignedDifference.Proofs.Outcome.Swap
import SignedDifference.Proofs.Reading.Acceptance
import SignedDifference.Proofs.Reading.Arrow
import SignedDifference.Proofs.Reading.Continuations
import SignedDifference.Proofs.Reading.Display
import SignedDifference.Proofs.Reading.ErrorList
import SignedDifference.Proofs.Reading.ErrorPlace
import SignedDifference.Proofs.Reading.LeadingBlanks
import SignedDifference.Proofs.Session.Consistency
import SignedDifference.Proofs.Session.ErrorLocation
import SignedDifference.Proofs.Session.Explaining
import SignedDifference.Proofs.Session.Fuzz
import SignedDifference.Proofs.Session.Retyping

import PaymentUri.Main
import PaymentUri.Session.Step
import PaymentUri.Proofs.Alphabet
import PaymentUri.Proofs.Escape
import PaymentUri.Proofs.Amount
import PaymentUri.Proofs.Check
import PaymentUri.Proofs.Checklist
import PaymentUri.Proofs.FirstEntries
import PaymentUri.Proofs.Request
import PaymentUri.Proofs.Query
import PaymentUri.Proofs.Grammar
import PaymentUri.Proofs.Accepting
import PaymentUri.Proofs.Canonical
import PaymentUri.Proofs.FirstFault
import PaymentUri.Proofs.Reading
import PaymentUri.Proofs.Writing
import PaymentUri.Proofs.RoundTrip
import PaymentUri.Proofs.EncodedValue
import PaymentUri.Proofs.FieldText
import PaymentUri.Proofs.PlainAmount
import PaymentUri.Proofs.Literal
import PaymentUri.Proofs.AmountLiteral
import PaymentUri.Proofs.IntegerText
import PaymentUri.Proofs.Rendering
import PaymentUri.Proofs.DecimalText
import PaymentUri.Proofs.CanonicalUri
import PaymentUri.Proofs.ExtraKey
import PaymentUri.Proofs.PairOrder
import PaymentUri.Proofs.TextPayee
import PaymentUri.Proofs.Appending
import PaymentUri.Proofs.Respelling
import PaymentUri.Proofs.Warnings
import PaymentUri.Proofs.Stages
import PaymentUri.Proofs.Calls
import PaymentUri.Proofs.NetworkAddress
import PaymentUri.Proofs.Invariants
import PaymentUri.Proofs.NodeResolver
import PaymentUri.Proofs.Run
import PaymentUri.Proofs.NodeCheck
import PaymentUri.Proofs.JsonText
import PaymentUri.Proofs.View
import PaymentUri.Proofs.LastEntries
import PaymentUri.Proofs.CommandLine
import PaymentUri.Proofs.CommandRoundTrip
import PaymentUri.Proofs.UnitConversion
import PaymentUri.Proofs.Failing
import PaymentUri.Proofs.Answers
import PaymentUri.Proofs.ConfigFaults
import PaymentUri.Proofs.Precedence
import PaymentUri.Proofs.SmallLetters
import PaymentUri.Proofs.Authority
import PaymentUri.Proofs.NamedHost
import PaymentUri.Proofs.BaseUrl
import PaymentUri.Proofs.Remembered
import PaymentUri.Proofs.Endings
import PaymentUri.Proofs.Atoms
import PaymentUri.Proofs.NetworkChoice
import PaymentUri.Proofs.EmptyEndpoint
import PaymentUri.Proofs.Replies

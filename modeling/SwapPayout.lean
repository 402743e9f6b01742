import SwapPayout.Bridge
import SwapPayout.Error.Report
import SwapPayout.InMemory.Keeper
import SwapPayout.InMemory.Ledger
import SwapPayout.InMemory.Oracle
import SwapPayout.InMemory.Routes
import SwapPayout.Ledger.Reply
import SwapPayout.Proofs.Payment.SignedForm
import SwapPayout.Proofs.Bytes.Hex
import SwapPayout.Proofs.Signature.Der
import SwapPayout.Proofs.Key.Verification
import SwapPayout.Proofs.Wire.Reader
import SwapPayout.Wire.Writer
import SwapPayout.Proofs.Amount.Reading
import SwapPayout.Proofs.PathSet.Reading
import SwapPayout.Proofs.Payment.Reading
import SwapPayout.Proofs.Payment.Draft
import SwapPayout.Proofs.Signing.Session
import SwapPayout.Proofs.Quantity.Value
import SwapPayout.Proofs.Solvency
import SwapPayout.Proofs.Bridge.Planning
import SwapPayout.Proofs.Token
import SwapPayout.Proofs.Bridge.Building
import SwapPayout.Proofs.Bridge.Signing
import SwapPayout.Proofs.Sequence.Interleaving
import SwapPayout.Proofs.Bridge.Rejection
import SwapPayout.Proofs.Bridge.Course
import SwapPayout.Proofs.Signing.Calls
import SwapPayout.Proofs.Signing.HeldKey
import SwapPayout.Proofs.Signing.Network
import SwapPayout.Proofs.Bridge.Agreement
import SwapPayout.Proofs.Bridge.Debit
import SwapPayout.Proofs.AccountId
import SwapPayout.Proofs.Sequence.History
import SwapPayout.Proofs.Bridge.Retry
import SwapPayout.Proofs.Quantity.Rounding
import SwapPayout.Proofs.Quantity.Words
import SwapPayout.Proofs.Quantity.Decimal
import SwapPayout.Proofs.Quantity.Parsing
import SwapPayout.Proofs.Quantity.Writing
import SwapPayout.Proofs.Quantity.Order
import SwapPayout.Proofs.Ledger.Holding
import SwapPayout.Proofs.Token.Conversion
import SwapPayout.Proofs.Currency
import SwapPayout.Proofs.Token.Vanishing
import SwapPayout.Proofs.Token.Native
import SwapPayout.Proofs.PathSet.Notation
import SwapPayout.Proofs.Payment.Order
import SwapPayout.Proofs.Ledger.TrustLine
import SwapPayout.Proofs.Signing.Request
import SwapPayout.Proofs.Signing.Twins
import SwapPayout.Proofs.Json.Scanning
import SwapPayout.Proofs.Json.Reading
import SwapPayout.Proofs.Swap.Context
import SwapPayout.Proofs.Amount.Packing

import Haystack.Binary.Arithmetic
import Haystack.Binary.Basic
import Haystack.Binary.Order
import Haystack.Binary.Rounding
import Haystack.Binary.Units
import Haystack.Decimal.Basic
import Haystack.Decimal.Digits
import Haystack.Decimal.Numeral
import Haystack.Decimal.Shortest
import Haystack.Digest.Fold
import Haystack.Digest.Written
import Haystack.Digest.Xxh3
import Haystack.Json.Number
import Haystack.Json.StringBody
import Haystack.Json.Token
import Haystack.Kind.Basic
import Haystack.Kind.Item
import Haystack.Options.DecodeError
import Haystack.Options.Decoding
import Haystack.Options.Encoding
import Haystack.Options.Field
import Haystack.Search.Agreement
import Haystack.Search.Error
import Haystack.Search.Event
import Haystack.Search.IndexedScan
import Haystack.Search.Occurrence
import Haystack.Search.Options
import Haystack.Search.Query
import Haystack.Search.Rule
import Haystack.Search.Scan
import Haystack.Search.Slice
import Haystack.Search.Tolerance
import Haystack.Search.WordScan
import Haystack.Session
import Haystack.Shuffle.Basic
import Haystack.Shuffle.Source
import Haystack.Shuffle.Words
import Haystack.Text.Extending
import Haystack.Text.Quoted
import Haystack.Text.Unprintable
import Haystack.Value.Element
import Haystack.Value.Tally
import Haystack.Value.TextRule
import Haystack.Value.TypedArray
import Haystack.Version
import Haystack.Proofs.Value.Element
import Haystack.Proofs.Value.Equality
import Haystack.Proofs.Value.Hash
import Haystack.Proofs.Shuffle.Transposition
import Haystack.Proofs.Binary.Value
import Haystack.Proofs.Binary.Distance
import Haystack.Proofs.Search.Scan
import Haystack.Proofs.Search.Dispatch
import Haystack.Proofs.Search.Refusal
import Haystack.Proofs.Value.Path
import Haystack.Proofs.Search.SubArray
import Haystack.Proofs.Search.ExactWindow
import Haystack.Proofs.Decimal.Shortest
import Haystack.Proofs.Decimal.Nearest
import Haystack.Proofs.Decimal.Numeral
import Haystack.Proofs.Json.Token
import Haystack.Proofs.Json.Grammar
import Haystack.Proofs.Json.Reading
import Haystack.Proofs.Json.Number
import Haystack.Proofs.Json.Rounding
import Haystack.Proofs.Options.RoundTrip
import Haystack.Proofs.Shuffle.Positions
import Haystack.Proofs.Search.Log
import Haystack.Proofs.Options.Stable
import Haystack.Proofs.Options.Settings
import Haystack.Proofs.Options.Grammar
import Haystack.Proofs.Binary.Nearest
import Haystack.Proofs.Search.IndexedScan
import Haystack.Proofs.Search.Starts
import Haystack.Proofs.Search.Narrowing
import Haystack.Proofs.Binary.Neighbour
import Haystack.Proofs.Search.Window
import Haystack.Proofs.Search.Mirror
import Haystack.Proofs.Search.Item
import Haystack.Proofs.Value.Image
import Haystack.Proofs.Digest.Fold
import Haystack.Proofs.Value.Change
import Haystack.Proofs.Binary.Identity
import Haystack.Proofs.Search.EndBound
import Haystack.Proofs.Search.EmptyWindow
import Haystack.Proofs.Search.Widening
import Haystack.Proofs.Shuffle.Reachable
import Haystack.Proofs.Shuffle.Draws
import Haystack.Proofs.Search.WordScan
import Haystack.Proofs.Shuffle.Bias
import Haystack.Proofs.Digest.Polynomial
import Haystack.Proofs.Digest.Padding

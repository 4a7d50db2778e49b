import RateCard.FileTree.Contents
import RateCard.Main
import RateCard.PriceList.Decode
import RateCard.Proofs.Json.Grammar
import RateCard.Proofs.Json.Reading.Numeral
import RateCard.Proofs.Text.Utf8
import RateCard.Proofs.Json.Reading.Text
import RateCard.Proofs.Json.Reading.Value
import RateCard.Proofs.Json.Layout
import RateCard.Proofs.PriceList.ReadBack
import RateCard.Proofs.FileTree.Slot
import RateCard.Proofs.FileTree.Change
import RateCard.Proofs.FileTree.Parents
import RateCard.Proofs.Artifact.Place
import RateCard.Proofs.Artifact.Atomic
import RateCard.Proofs.Artifact.Inspect
import RateCard.Proofs.Network.Exchange
import RateCard.Proofs.Refresh.Fetch
import RateCard.Proofs.Refresh.Outcome
import RateCard.Proofs.Refresh.EndToEnd
import RateCard.Proofs.Artifact.Steady
import RateCard.Proofs.Refresh.Run
import RateCard.Proofs.Text.WellFormed
import RateCard.Proofs.Json.Exact.Numeral
import RateCard.Proofs.Json.Exact.Text
import RateCard.Proofs.Json.Exact.Value
import RateCard.Proofs.Json.RepeatedKeys
import RateCard.Proofs.Refresh.Body
import RateCard.Proofs.PriceList.Generic
import RateCard.Proofs.Artifact.Accepted
import RateCard.Proofs.Refresh.Failures
import RateCard.Proofs.CommandLine.Verbosity
import RateCard.Proofs.CommandLine.ExitCode
import RateCard.Proofs.FileTree.Ends
import RateCard.Proofs.Artifact.Touched
import RateCard.Proofs.Json.Encoded
import RateCard.Proofs.Artifact.Classified
import RateCard.Proofs.FileTree.Down
import RateCard.Proofs.Artifact.Succeeds
import RateCard.Proofs.Network.Hops
import RateCard.Proofs.Refresh.Decided
import RateCard.Proofs.Refresh.Positions
import RateCard.Proofs.Json.Compact
import RateCard.Proofs.Json.Place
import RateCard.Proofs.Json.Token
import RateCard.Proofs.PriceList.Equality
import RateCard.Proofs.PriceList.Canonical
import RateCard.Proofs.Json.Literal
import RateCard.Proofs.Json.Related
import RateCard.Proofs.Json.Part
import RateCard.Proofs.Refresh.Numbers
import RateCard.Proofs.Log.Warnings
import RateCard.Proofs.CommandLine.Spellings
import RateCard.Proofs.Refresh.Spelling
import RateCard.Proofs.Artifact.Commute
import RateCard.Proofs.Path.Sibling

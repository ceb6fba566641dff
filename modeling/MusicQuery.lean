import MusicQuery.Playlist.Json
import MusicQuery.Service
import MusicQuery.Proofs.Index.Fronts
import MusicQuery.Proofs.Text.Words
import MusicQuery.Proofs.Binary64.Order
import MusicQuery.Proofs.Index.Inverted
import MusicQuery.Proofs.Index.Sorted
import MusicQuery.Proofs.Index.Range
import MusicQuery.Proofs.Shelf
import MusicQuery.Proofs.Index.Catalog
import MusicQuery.Proofs.Library.History
import MusicQuery.Proofs.Library.Audit
import MusicQuery.Proofs.Library.Image
import MusicQuery.Proofs.Library.Selection
import MusicQuery.Proofs.Rule.Negation
import MusicQuery.Proofs.Library.Algebra
import MusicQuery.Proofs.Index.Canonical
import MusicQuery.Proofs.Layout
import MusicQuery.Proofs.Library.Agreement
import MusicQuery.Proofs.Library.Rebuild
import MusicQuery.Proofs.Library.Commute
import MusicQuery.Proofs.Arrangement
import MusicQuery.Proofs.Live.Change
import MusicQuery.Proofs.Live.List
import MusicQuery.Proofs.Live.Board
import MusicQuery.Proofs.Live.Step
import MusicQuery.Proofs.Live.Run
import MusicQuery.Proofs.Live.Apart
import MusicQuery.Proofs.Rule.Clock
import MusicQuery.Proofs.Live.Published
import MusicQuery.Proofs.Live.Commute
import MusicQuery.Proofs.Live.Subscriber
import MusicQuery.Proofs.Live.Contents
import MusicQuery.Proofs.Live.Drift
import MusicQuery.Proofs.Text.Digits
import MusicQuery.Proofs.Uuid
import MusicQuery.Proofs.Instant.Calendar
import MusicQuery.Proofs.Instant.Text
import MusicQuery.Proofs.Rule.Validation
import MusicQuery.Proofs.Binary64.Shortest
import MusicQuery.Proofs.Json.Number
import MusicQuery.Proofs.Json.Token
import MusicQuery.Proofs.Json.Tree
import MusicQuery.Proofs.Json.Render
import MusicQuery.Proofs.Json.Record
import MusicQuery.Proofs.Rule.Json
import MusicQuery.Proofs.Rule.Kept
import MusicQuery.Proofs.Playlist.Json
import MusicQuery.Proofs.AnswerCache
import MusicQuery.Proofs.Service
import MusicQuery.Proofs.Text.Lowercase
import MusicQuery.Proofs.Rule.Loosening
import MusicQuery.Proofs.Library.Stamps
import MusicQuery.Proofs.Live.Difference
import MusicQuery.Proofs.Live.News
import MusicQuery.Proofs.StableOrder
import MusicQuery.Proofs.Index.Bisection
import MusicQuery.Proofs.Index.Values
import MusicQuery.Proofs.Index.Texts
import MusicQuery.Proofs.Library.Exactness
import MusicQuery.Proofs.AnswerCache.History
import MusicQuery.Proofs.Rule.Operators
import MusicQuery.Proofs.AnswerCache.Keys
import MusicQuery.Proofs.Library.Verdict
import MusicQuery.Proofs.Moment
import MusicQuery.Proofs.Rule.Recency
import MusicQuery.Proofs.Library.Clock
import MusicQuery.Proofs.Rule.Complement
import MusicQuery.Proofs.Shelf.History
import MusicQuery.Proofs.Shelf.Ledger
import MusicQuery.Proofs.Index.Bounded
import MusicQuery.Proofs.Text.Runs
import MusicQuery.Proofs.Binary64.Value
import MusicQuery.Proofs.Binary64.TotalOrder
import MusicQuery.Proofs.Live.Channel
import MusicQuery.Proofs.Audience

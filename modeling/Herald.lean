import Herald.Config
import Herald.Event.Json
import Herald.Ingress.Basic
import Herald.Json.Printer
import Herald.Proofs.Pool.Schedule
import Herald.Proofs.Run.Visibility
import Herald.Run.Live
import Herald.Run.Rehearsal
import Herald.Proofs.Run.Requests
import Herald.Proofs.Run.Endings
import Herald.Proofs.Store.Accounts
import Herald.Proofs.Json.Merged
import Herald.Proofs.Event.Fields
import Herald.Proofs.Run.Expansion
import Herald.Proofs.Subscription.Rule
import Herald.Proofs.Run.Stages
import Herald.Proofs.Store.Isolation
import Herald.Proofs.Run.DirectPosts
import Herald.Proofs.Signature.Genuine
import Herald.Proofs.Event.Certain
import Herald.Proofs.Ingress.Handing
import Herald.Proofs.Event.Mentions
import Herald.Proofs.Event.OwnAction
import Herald.Proofs.Event.Changelog
import Herald.Proofs.Event.Verdict
import Herald.Proofs.Event.MentionPieces
import Herald.Proofs.Run.FanOut
import Herald.Proofs.Run.Tellings
import Herald.Proofs.Run.Completion
import Herald.Proofs.Event.FieldValues
import Herald.Proofs.Json.Thinned
import Herald.Proofs.Store.Records
import Herald.Proofs.Event.Thinned
import Herald.Proofs.Run.Uncommented
import Herald.Proofs.Event.ProjectKey
import Herald.Proofs.Event.Identity
import Herald.Proofs.Message.Quote
import Herald.Proofs.Message.Changes
import Herald.Proofs.Signature.Header
import Herald.Proofs.Config.Acceptance
import Herald.Proofs.Config.Starting
import Herald.Proofs.Json.Abridged
import Herald.Proofs.Json.RoundTrip
import Herald.Proofs.Store.SeedFormat

import LivePages.Settings.Reader
import LivePages.Proofs.Program.Attribute
import LivePages.Proofs.Client.Notification
import LivePages.Proofs.Client.Failure
import LivePages.Proofs.Client.Following
import LivePages.Proofs.Route.Filling
import LivePages.Proofs.Expr.Parsing
import LivePages.Proofs.Event.Indexing
import LivePages.Proofs.Markup.Reparse
import LivePages.Proofs.Client.Coupling
import LivePages.Proofs.Client.Shown
import LivePages.Proofs.Client.Joining
import LivePages.Proofs.Client.Reading
import LivePages.Proofs.Client.Rerendering
import LivePages.Proofs.Client.Upkeep
import LivePages.Proofs.Client.Privacy
import LivePages.Proofs.Client.Discretion
import LivePages.Proofs.Client.Freshness
import LivePages.Proofs.Client.Moment
import LivePages.Proofs.Program.Counting
import LivePages.Proofs.Client.Attachment
import LivePages.Proofs.Client.Listening
import LivePages.Proofs.Client.Leftover
import LivePages.Proofs.Client.Renewal
import LivePages.Proofs.Template.Source
import LivePages.Proofs.Markup.Level
import LivePages.Proofs.Expr.Caching
import LivePages.Proofs.Expr.Header
import LivePages.Proofs.Markup.Replacement
import LivePages.Proofs.Markup.Traversal
import LivePages.Proofs.History
import LivePages.Proofs.Asset.Settling
import LivePages.Proofs.Client.Dependence
import LivePages.Proofs.Expr.Iteration

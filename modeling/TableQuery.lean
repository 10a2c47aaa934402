import TableQuery.Cache.Sweep
import TableQuery.Client.Execute
import TableQuery.Client.Timeline
import TableQuery.Config.Load
import TableQuery.Inspect
import TableQuery.Proofs.Cache.Refinement
import TableQuery.Proofs.Client.ReadYourWrites
import TableQuery.Proofs.Server.FailedWrites
import TableQuery.Proofs.Server.Groups
import TableQuery.Proofs.Server.Lists
import TableQuery.Proofs.Url.Form
import TableQuery.Proofs.Query.CacheKey
import TableQuery.Proofs.Text.Closed
import TableQuery.Proofs.Text.Material
import TableQuery.Proofs.Server.Selections
import TableQuery.Proofs.Query.Levels
import TableQuery.Proofs.Query.Selection
import TableQuery.Proofs.Query.Embeds
import TableQuery.Proofs.Decimal
import TableQuery.Proofs.Server.Names
import TableQuery.Proofs.Server.Parameters
import TableQuery.Proofs.Query.Hoisting
import TableQuery.Proofs.Server.SelectedRows
import TableQuery.Proofs.Client.Pages
import TableQuery.Proofs.Client.KeysetWalk
import TableQuery.Proofs.Client.InnerReads
import TableQuery.Proofs.Query.Cursors
import TableQuery.Proofs.Client.FruitlessReads
import TableQuery.Proofs.Client.OneMessage
import TableQuery.Proofs.Client.ServedAnswers
import TableQuery.Proofs.Server.EmbeddedReads
import TableQuery.Proofs.Client.Modes
import TableQuery.Proofs.Cache.Indexed
import TableQuery.Proofs.Cache.Origins
import TableQuery.Proofs.Server.KeyedTables
import TableQuery.Proofs.Server.Merges
import TableQuery.Proofs.Client.RangeReads
import TableQuery.Proofs.Server.Patterns
import TableQuery.Proofs.Server.LoneLeaves
import TableQuery.Proofs.Query.Outcomes
import TableQuery.Proofs.Query.Outputs
import TableQuery.Proofs.Operator
import TableQuery.Proofs.Query.Heads
import TableQuery.Proofs.Query.Aliases
import TableQuery.Proofs.Query.Steps
import TableQuery.Proofs.Query.FilteredWrites
import TableQuery.Proofs.Server.KnownColumns
import TableQuery.Proofs.Server.WholeCells
import TableQuery.Proofs.Query.WriteReach
import TableQuery.Proofs.Client.RequestAddress

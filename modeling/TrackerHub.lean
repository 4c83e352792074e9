import TrackerHub.Log.Basic
import TrackerHub.Main
import TrackerHub.Proofs.Agent.BaseUrl
import TrackerHub.Proofs.Agent.CarriedDates
import TrackerHub.Proofs.Agent.CategoryFilter
import TrackerHub.Proofs.Agent.FieldOrder
import TrackerHub.Proofs.Agent.GuardedCalls
import TrackerHub.Proofs.Agent.RemovedRows
import TrackerHub.Proofs.Agent.RepeatedSearch
import TrackerHub.Proofs.Agent.RequestedAddress
import TrackerHub.Proofs.Agent.RowFaults
import TrackerHub.Proofs.Agent.SearchLimit
import TrackerHub.Proofs.Agent.TrialReports
import TrackerHub.Proofs.Agent.WellFormed
import TrackerHub.Proofs.Aggregate.Members
import TrackerHub.Proofs.Aggregate.PassedLimits
import TrackerHub.Proofs.Api.Answers
import TrackerHub.Proofs.Catalog.EnabledSites
import TrackerHub.Proofs.Catalog.FilePlaces
import TrackerHub.Proofs.Catalog.Precedence
import TrackerHub.Proofs.Category.Reverse
import TrackerHub.Proofs.Config.Layers
import TrackerHub.Proofs.Config.LoadedSettings
import TrackerHub.Proofs.Config.VariableFiles
import TrackerHub.Proofs.Definition.ReportedErrors
import TrackerHub.Proofs.Definition.Sound
import TrackerHub.Proofs.Feed.CapabilityText
import TrackerHub.Proofs.Feed.Items
import TrackerHub.Proofs.Feed.JsonItems
import TrackerHub.Proofs.Filter.Faults
import TrackerHub.Proofs.Filter.Times
import TrackerHub.Proofs.Number.Sizes
import TrackerHub.Proofs.Page.MergedRows
import TrackerHub.Proofs.Query.GivenParams
import TrackerHub.Proofs.Query.WireQuery
import TrackerHub.Proofs.Regex.Faults
import TrackerHub.Proofs.SavedSites
import TrackerHub.Proofs.Template.Joined
import TrackerHub.Proofs.Template.Parsing
import TrackerHub.Proofs.Template.Reach
import TrackerHub.Proofs.Time.Faults
import TrackerHub.Proofs.Time.MailDate
import TrackerHub.Proofs.Time.StatedDurations
import TrackerHub.Proofs.Web.BrowserPages
import TrackerHub.Proofs.Web.FilledForms
import TrackerHub.Proofs.Yaml.PlainText
import TrackerHub.Proofs.Yaml.ScannedBlocks
import TrackerHub.Proofs.Yaml.ScannedEntries
import TrackerHub.Proofs.Yaml.ScannedSections
import TrackerHub.Proofs.Yaml.ScannedText
import TrackerHub.Proofs.Yaml.WrittenChars
import TrackerHub.Proofs.Yaml.WrittenNodes
import TrackerHub.Time.Iso
import TrackerHub.Web.Script

import AuthRedirect.Main
import AuthRedirect.Document.Organizations
import AuthRedirect.Handoff
import AuthRedirect.OrganizationEdit
import AuthRedirect.Store.Service
import AuthRedirect.Proofs.JsonRoundTrip
import AuthRedirect.Proofs.Lowercase
import AuthRedirect.Proofs.MetadataUpdates
import AuthRedirect.Proofs.OriginText
import AuthRedirect.Proofs.Precedence
import AuthRedirect.Proofs.ProvisioningRuns
import AuthRedirect.Proofs.RuleDocuments
import AuthRedirect.Proofs.ServicePrograms
import AuthRedirect.Proofs.ValidationErrors
import AuthRedirect.Proofs.MetadataEdits
import AuthRedirect.Proofs.ServiceHistory
import AuthRedirect.Proofs.ServiceRetries
import AuthRedirect.Proofs.WebUrls
import AuthRedirect.Proofs.NormalForm
import AuthRedirect.Proofs.ProvisioningCoverage
import AuthRedirect.Proofs.TokenHost
import AuthRedirect.Proofs.LockedRules
import AuthRedirect.Proofs.ProvisionedAnswers
import AuthRedirect.Proofs.PlainAnswers
import AuthRedirect.Proofs.WebsiteEdits
import AuthRedirect.Proofs.RoleWarnings
import AuthRedirect.Proofs.JsonParts
import AuthRedirect.Proofs.OrganizationDocuments
import AuthRedirect.Proofs.FolderWrites
import AuthRedirect.Proofs.SettingsDocuments
import AuthRedirect.Proofs.DecodingFailures
import AuthRedirect.Proofs.CommandFailures
import AuthRedirect.Proofs.ProvisionCommand
import AuthRedirect.Proofs.OriginComparison
import AuthRedirect.Proofs.MemberNames
import AuthRedirect.Proofs.RuleMembers
import AuthRedirect.Proofs.StoredRules
import AuthRedirect.Proofs.QueryText
import AuthRedirect.Proofs.UrlText
import AuthRedirect.Proofs.TokenParameters
import AuthRedirect.Proofs.DerivedServers
import AuthRedirect.Proofs.ErrorReports
import AuthRedirect.Proofs.CompetingDefaults
import AuthRedirect.Proofs.SingleDefault
import AuthRedirect.Proofs.LogRecords

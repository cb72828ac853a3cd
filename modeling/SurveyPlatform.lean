import SurveyPlatform.Library.Dict
import SurveyPlatform.Library.Runs
import SurveyPlatform.Library.Cycles
import SurveyPlatform.Library.Table
import SurveyPlatform.Library.Programs
import SurveyPlatform.Python.Text
import SurveyPlatform.Python.Float
import SurveyPlatform.Python.Values
import SurveyPlatform.Python.Dates
import SurveyPlatform.Python.Encoding
import SurveyPlatform.Surveys.Models
import SurveyPlatform.Surveys.Conditions
import SurveyPlatform.Surveys.Validators
import SurveyPlatform.Surveys.Database
import SurveyPlatform.Surveys.CycleChecks
import SurveyPlatform.Surveys.Services
import SurveyPlatform.Surveys.Serializers
import SurveyPlatform.Surveys.Views
import SurveyPlatform.Responses.Submission
import SurveyPlatform.Responses.Storage
import SurveyPlatform.Verified.SubmissionLoop
import SurveyPlatform.Verified.SubmissionExactness
import SurveyPlatform.Verified.SubmissionSafety
import SurveyPlatform.Verified.SubmissionStability
import SurveyPlatform.Verified.RuleValidity
import SurveyPlatform.Verified.RuleUpdates
import SurveyPlatform.Verified.RuleCreation
import SurveyPlatform.Verified.SurveyUpdates
import SurveyPlatform.Surveys.Steps
import SurveyPlatform.Verified.StatusOrder
import SurveyPlatform.Api
import SurveyPlatform.Verified.RequestChanges
import SurveyPlatform.Verified.RequestEffects
import SurveyPlatform.Verified.StructureFreeze
import SurveyPlatform.Verified.PublishSafety
import SurveyPlatform.Responses.Transactions
import SurveyPlatform.Verified.SubmissionAtomicity
import SurveyPlatform.Responses.Details
import SurveyPlatform.Verified.AnswerDurability
import SurveyPlatform.Library.CacheAside
import SurveyPlatform.Surveys.Retrieval
import SurveyPlatform.Verified.SurveyDetails
import SurveyPlatform.Verified.CacheCoherence
import SurveyPlatform.Verified.CacheRoles
import SurveyPlatform.Surveys.CacheSteps
import SurveyPlatform.Verified.CacheRaces
import SurveyPlatform.Responses.SubmitSteps
import SurveyPlatform.Verified.OpenSubmissions
import SurveyPlatform.Verified.HiddenOptions
import SurveyPlatform.Surveys.Admin
import SurveyPlatform.Verified.AdminSurveyForms
import SurveyPlatform.Verified.AdminHooks
import SurveyPlatform.Verified.AdminEdits
import SurveyPlatform.Verified.AdminPages
import SurveyPlatform.Verified.AdminInlines
import SurveyPlatform.Verified.AdminFreeze
import SurveyPlatform.Verified.CycleDetection
import SurveyPlatform.Verified.DefinitionOrder
import SurveyPlatform.Verified.EditEffects
import SurveyPlatform.Verified.FieldEdits
import SurveyPlatform.Verified.OptionEdits
import SurveyPlatform.Verified.SectionEdits
import SurveyPlatform.Verified.PartialUpdates
import SurveyPlatform.Verified.FieldRaces
import SurveyPlatform.Library.Focus
import SurveyPlatform.Audit.Signals
import SurveyPlatform.Audit.Views
import SurveyPlatform.Verified.AuditRefinement
import SurveyPlatform.Verified.AuditDeletions
import SurveyPlatform.Verified.AuditSteps
import SurveyPlatform.Verified.AuditOutcomes
import SurveyPlatform.Verified.AuditTrail
import SurveyPlatform.Verified.AuditActors
import SurveyPlatform.Audit.Tasks
import SurveyPlatform.Verified.AuditStorage
import SurveyPlatform.Verified.OptionChecks
import SurveyPlatform.Verified.RuleChecks
import SurveyPlatform.Python.Rounding
import SurveyPlatform.Python.Decimals
import SurveyPlatform.Python.ReadBack
import SurveyPlatform.Python.ExactNumbers
import SurveyPlatform.Verified.NumberBounds
import SurveyPlatform.Verified.NumberConditions
import SurveyPlatform.Verified.DateForms
import SurveyPlatform.Verified.DateComparisons
import SurveyPlatform.Verified.SetValues
import SurveyPlatform.Library.Alike
import SurveyPlatform.Python.Renderings
import SurveyPlatform.Verified.StoredAnswers
import SurveyPlatform.Verified.RequiredAnswers
import SurveyPlatform.Verified.CheckboxConditions
import SurveyPlatform.Verified.TypeChecks
import SurveyPlatform.Library.Infixes
import SurveyPlatform.Verified.RuleGroups
import SurveyPlatform.Verified.DependencyRestrictions
import SurveyPlatform.Library.Sorting
import SurveyPlatform.Surveys.QueryPaths
import SurveyPlatform.Verified.PrefetchedPaths
import SurveyPlatform.Verified.DisplayOrder
import SurveyPlatform.Library.Numerals
import SurveyPlatform.Verified.CacheKeys
import SurveyPlatform.Verified.OrderNumbers
import SurveyPlatform.Verified.AnswerOrder
import SurveyPlatform.Verified.HiddenSurveys
import SurveyPlatform.Verified.RequestOutcomes
import SurveyPlatform.Verified.RequestRetries
import SurveyPlatform.Library.Pages
import SurveyPlatform.Library.References
import SurveyPlatform.Responses.Listings
import SurveyPlatform.Verified.Integrity
import SurveyPlatform.Verified.Placement
import SurveyPlatform.Verified.ResponseListings
import SurveyPlatform.Verified.SurveyIsolation
import SurveyPlatform.Accounts.Models
import SurveyPlatform.Accounts.Views
import SurveyPlatform.Verified.AccountEmails
import SurveyPlatform.Verified.AccountProvenance
import SurveyPlatform.Verified.SiteAuthority
import SurveyPlatform.Audit.Reads
import SurveyPlatform.Library.ExpiringCache
import SurveyPlatform.Surveys.CacheService
import SurveyPlatform.Verified.CacheExpiry
import SurveyPlatform.Verified.AuditPipeline
import SurveyPlatform.Verified.SurveyBuilding
import SurveyPlatform.Library.Unwinding
import SurveyPlatform.Verified.CustomerViews
import SurveyPlatform.Verified.DefinitionValidity
import SurveyPlatform.Verified.DefinitionRuns
import SurveyPlatform.Verified.ResponseConformance
import SurveyPlatform.Verified.AdminDeletions

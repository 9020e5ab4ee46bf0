import RssiService.AccessRequests.Conclusions
import RssiService.Accounts.OneTimeTokens
import RssiService.Actions.ItemRequests
import RssiService.Actions.PlanSeries
import RssiService.AiAssistant.Conversation
import RssiService.AiAssistant.Documents
import RssiService.AiAssistant.JobExecutions
import RssiService.AiAssistant.ModelCalls
import RssiService.AiAssistant.Rehydration
import RssiService.Assessments.Completion
import RssiService.Assessments.Compositions
import RssiService.Assessments.Maturity
import RssiService.Assessments.Reimports
import RssiService.Assessments.WellFormedImports
import RssiService.Billing.CapacityAlerts
import RssiService.Billing.Coherence
import RssiService.Billing.TrialExpiry
import RssiService.Monitoring.CertificateWindows
import RssiService.Monitoring.OwnershipReview
import RssiService.Monitoring.SafeGet
import RssiService.Notifications.BulletinGroups
import RssiService.Notifications.Bulletins
import RssiService.PlatformAdmin.AccessLinks
import RssiService.PlatformAdmin.FullAdministrators
import RssiService.PlatformAdmin.SettingsCache
import RssiService.PlatformAdmin.SubscriptionDetail
import RssiService.RegulatoryWatch.FailureCounts
import RssiService.RegulatoryWatch.PageChanges
import RssiService.RegulatoryWatch.RecordedOnce
import RssiService.RegulatoryWatch.Reviews
import RssiService.Reporting.LocalBounds
import RssiService.Tenants.Conversions
import RssiService.Tenants.RacingRequests
import RssiService.ThreatIntelligence.AlertEscalation
import RssiService.ThreatIntelligence.AttentionBound
import RssiService.ThreatIntelligence.DistinctLeaks
import RssiService.ThreatIntelligence.ExposureByAsset
import RssiService.ThreatIntelligence.PoolRoom
import RssiService.ThreatIntelligence.RetoldLeaks
import RssiService.ThreatIntelligence.ScanCooldown
import RssiService.ThreatIntelligence.ScanResults
import RssiService.ThreatIntelligence.ServedFeed
import RssiService.ThreatIntelligence.SynthesisRefresh
import RssiService.ThreatIntelligence.TenantIsolation
import RssiService.ThreatIntelligence.Throttle
import RssiService.ThreatIntelligence.WatchedGroups
import RssiService.Training.CampaignReports
import RssiService.Training.CompleteImports
import RssiService.Training.ContextualBlocks
import RssiService.Training.Copies
import RssiService.Training.HardestQuestions
import RssiService.Training.ReminderFailures
import RssiService.Training.Reordering
import RssiService.Training.ReportedEvidence

import ClusterSubmission.Log.Record
import ClusterSubmission.Negotiator.Connection
import ClusterSubmission.Negotiator.Rehearsal
import ClusterSubmission.Settings.Load
import ClusterSubmission.Submission.Submit
import ClusterSubmission.Proofs.Console
import ClusterSubmission.Proofs.Run
import ClusterSubmission.Proofs.ServiceAddress
import ClusterSubmission.Proofs.Exchange
import ClusterSubmission.Proofs.Request
import ClusterSubmission.Proofs.Negotiation
import ClusterSubmission.Proofs.ForeseenFailures
import ClusterSubmission.Proofs.Steps
import ClusterSubmission.Proofs.Calls
import ClusterSubmission.Proofs.Protocol
import ClusterSubmission.Proofs.ValidParameters
import ClusterSubmission.Proofs.LogLevel
import ClusterSubmission.Proofs.LogLevelServices
import ClusterSubmission.Proofs.LogLevelRuns
import ClusterSubmission.Proofs.Utf8
import ClusterSubmission.Proofs.JsonText
import ClusterSubmission.Proofs.MessageRoundTrip
import ClusterSubmission.Proofs.ContextRoundTrip
import ClusterSubmission.Proofs.Configuration
import ClusterSubmission.Proofs.ContextForm
import ClusterSubmission.Proofs.Resolution
import ClusterSubmission.Proofs.PostedContext
import ClusterSubmission.Proofs.SessionFrame
import ClusterSubmission.Proofs.SessionRuns
import ClusterSubmission.Proofs.Entries
import ClusterSubmission.Proofs.PostedTokens
import ClusterSubmission.Proofs.CredentialDelivery
import ClusterSubmission.Proofs.SharedCredentials
import ClusterSubmission.Proofs.TokenAliases
import ClusterSubmission.Proofs.VariableFiles
import ClusterSubmission.Proofs.SettingsLayers
import ClusterSubmission.Proofs.SettingsLoading
import ClusterSubmission.Proofs.StoredFiles
import ClusterSubmission.Proofs.SettingsRoundTrip
import ClusterSubmission.Proofs.DocumentPaths
import ClusterSubmission.Proofs.Preparation
import ClusterSubmission.Proofs.AttemptPolicy
import ClusterSubmission.Proofs.MemoryLimit
import ClusterSubmission.Proofs.CookieReuse
import ClusterSubmission.Proofs.RequestOutcomes
import ClusterSubmission.Proofs.SessionAuthentication
import ClusterSubmission.Proofs.RefusedCookies
import ClusterSubmission.Proofs.SiteFiles
import ClusterSubmission.Proofs.Interpolation
import ClusterSubmission.Proofs.Base64
import ClusterSubmission.Proofs.TokenSurvival
import ClusterSubmission.Proofs.JsonGrammar
import ClusterSubmission.Proofs.CredentialText
import ClusterSubmission.Proofs.ExactTime
import ClusterSubmission.Proofs.Polling
import ClusterSubmission.Proofs.ExactWaiting
import ClusterSubmission.Proofs.SoundText
import ClusterSubmission.Proofs.CredentialOutcome
import ClusterSubmission.Proofs.DigitRuns
import ClusterSubmission.Proofs.VersionTexts
import ClusterSubmission.Proofs.ApplicationIds
import ClusterSubmission.Proofs.PrunedMessages
import ClusterSubmission.Proofs.TypedReading
import ClusterSubmission.Proofs.DocumentFaults
import ClusterSubmission.Proofs.SettingsFailures
import ClusterSubmission.Proofs.CommandWords
import ClusterSubmission.Proofs.CommandParts
import ClusterSubmission.Proofs.LoggerTargets
import ClusterSubmission.Proofs.SiteAddresses
import ClusterSubmission.Proofs.SettingsConnection

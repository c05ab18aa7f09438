import SocAnalyst.Builtins
import SocAnalyst.Dicts
import SocAnalyst.Doubles
import SocAnalyst.Times
import SocAnalyst.Values
import SocAnalyst.Versions
import SocAnalyst.Applicability
import SocAnalyst.Nvd
import SocAnalyst.Assessments
import SocAnalyst.Logs
import SocAnalyst.MemoryRaces
import SocAnalyst.MemoryTiers
import SocAnalyst.Reporting
import SocAnalyst.Risk
import SocAnalyst.Remediation
import SocAnalyst.Recommender
import SocAnalyst.Runs
import SocAnalyst.Decisions
import SocAnalyst.Notifications
import SocAnalyst.Dispatch
import SocAnalyst.Failover
import SocAnalyst.Delivery
import SocAnalyst.ConcurrentDelivery
import SocAnalyst.GraphState
import SocAnalyst.GraphNodes
import SocAnalyst.GraphRuns
import SocAnalyst.GraphFlow
import SocAnalyst.GraphGate
import SocAnalyst.GraphService
import SocAnalyst.GateDecision
import SocAnalyst.IpAddresses
import SocAnalyst.Knowledge
import SocAnalyst.VectorStores
import SocAnalyst.Ingestion
import SocAnalyst.IndexSwaps
import SocAnalyst.Snapshots
import SocAnalyst.Citations
import SocAnalyst.Ranking
import SocAnalyst.Retrieval
import SocAnalyst.Iocs
import SocAnalyst.Enrichment
import SocAnalyst.Resilience
import SocAnalyst.Adapters
import SocAnalyst.Recovery
import SocAnalyst.LogAnalysis
import SocAnalyst.IncidentReports
import SocAnalyst.ReportedGaps
import SocAnalyst.InvestigationRuns
import SocAnalyst.AuthSessions
import SocAnalyst.TokenRotation
import SocAnalyst.Isolation
import SocAnalyst.Refreshes
import SocAnalyst.BoundedRanking
import SocAnalyst.KeywordSearches
import SocAnalyst.CachedAnswers
import SocAnalyst.Pieces
import SocAnalyst.AlertTemplates
import SocAnalyst.AlertLinks
import SocAnalyst.AlertLines
import SocAnalyst.Markdown
import SocAnalyst.ReportRendering
import SocAnalyst.ReportOutlines
import SocAnalyst.Detections
import SocAnalyst.Severities
import SocAnalyst.Techniques
import SocAnalyst.ThreatDetection
import SocAnalyst.Guidance
import SocAnalyst.RemediationPlans
import SocAnalyst.VersionSpellings
import SocAnalyst.Generations
import SocAnalyst.RecordedPlans
import SocAnalyst.RecordedFindings
import SocAnalyst.Blocks
import SocAnalyst.EventStreams
import SocAnalyst.LiveStreams
import SocAnalyst.StreamSubscriptions
import SocAnalyst.Retries
import SocAnalyst.Groups
import SocAnalyst.Calendar
import SocAnalyst.Timelines
import SocAnalyst.Sightings
import SocAnalyst.EnrichmentRuns
import SocAnalyst.Corroboration
import SocAnalyst.BruteForce
import SocAnalyst.Gaps
import SocAnalyst.Correlations
import SocAnalyst.Scanners
import SocAnalyst.LogParsers
import SocAnalyst.Brackets
import SocAnalyst.StructuredData
import SocAnalyst.SyslogYears
import SocAnalyst.Cef
import SocAnalyst.Cvss
import SocAnalyst.Raising
import SocAnalyst.NvdRecords
import SocAnalyst.ResponseBodies
import SocAnalyst.ProductNames
import SocAnalyst.CvssVectors
import SocAnalyst.ReferenceNumbers
import SocAnalyst.Evictions
import SocAnalyst.Summaries
import SocAnalyst.WorkingMemories
import SocAnalyst.ContextBundles
import SocAnalyst.PromptAssembly
import SocAnalyst.Chunking
import SocAnalyst.ExploitMappings
import SocAnalyst.ExecutiveSummaries
import SocAnalyst.AlertPayloads
import SocAnalyst.GroundedContext
import SocAnalyst.Recency
import SocAnalyst.CacheHistories
import SocAnalyst.BreakerHistories
import SocAnalyst.LimiterHistories
import SocAnalyst.StreamContents
import SocAnalyst.CleanTexts
import SocAnalyst.EventIdentities
import SocAnalyst.IndexVersions
import SocAnalyst.RecommendationDecisions
import SocAnalyst.TokenRefresh
import SocAnalyst.Patterns
import SocAnalyst.Extraction
import SocAnalyst.Replacements
import SocAnalyst.DefangedIndicators
import SocAnalyst.ParserChains
import SocAnalyst.BatchAnalyses
import SocAnalyst.Tickets
import SocAnalyst.Logins
import SocAnalyst.GraphHistory
import SocAnalyst.Dossiers
import SocAnalyst.TrailingRuns
import SocAnalyst.DetectionRules
import SocAnalyst.Quotas
import SocAnalyst.RequestLimits
import SocAnalyst.SessionRevisions
import SocAnalyst.DecisionRecords
import SocAnalyst.RecallIndex
import SocAnalyst.ContextAssembly
import SocAnalyst.Pages
import SocAnalyst.Queues
import SocAnalyst.ChannelSettings
import SocAnalyst.PrefixCodes
import SocAnalyst.JsonTexts
import SocAnalyst.AuditTrail
import SocAnalyst.SourceDirectories

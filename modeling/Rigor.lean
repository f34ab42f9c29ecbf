import Rigor.PyText
import Rigor.PyJson
import Rigor.PyJsonRoundTrip
import Rigor.PyJsonScan
import Rigor.PyJsonLines
import Rigor.RequestHash
import Rigor.Runs
import Rigor.Tables
import Rigor.ExecutionDomain
import Rigor.Results
import Rigor.RunnerRecord
import Rigor.ResultLog
import Rigor.SqlRunner
import Rigor.SqlParity
import Rigor.ExecutionClaims
import Rigor.ExecutionPersistence
import Rigor.ExecutionFencing
import Rigor.QuestionContent
import Rigor.PracticeStore
import Rigor.QueueApi
import Rigor.Platform
import Rigor.SubmissionLifecycle
import Rigor.QueueIdempotency
import Rigor.VersionPinning
import Rigor.ExecutionHistory
import Rigor.PyCompare
import Rigor.TrustedCompare
import Rigor.TestAlignment
import Rigor.HiddenTests
import Rigor.PgValues
import Rigor.ObservationStorage
import Rigor.CompetencyProgress
import Rigor.PythonRunner
import Rigor.RequestAcceptance
import Rigor.ChildProtocol
import Rigor.PythonParity
import Rigor.Transactions
import Rigor.CandidateTransactions
import Rigor.Backpressure
import Rigor.SessionStates
import Rigor.Catalogue
import Rigor.Reviews
import Rigor.ContentSync
import Rigor.PublicationPointer
import Rigor.ReviewedPublication
import Rigor.ContentImports
import Rigor.PublishedContent
import Rigor.SolutionReveal
import Rigor.Ingestion
import Rigor.ImportAccounting
import Rigor.ImportRollback
import Rigor.KnowledgeBank
import Rigor.KnowledgeRights
import Rigor.ContentTree
import Rigor.SyncReport
import Rigor.VercelDispatch
import Rigor.PracticeLog
import Rigor.SandboxOwnership
import Rigor.SandboxSweep
import Rigor.SerialTransactions
import Rigor.MockInterviewDomain
import Rigor.Mastery
import Rigor.MockInterview
import Rigor.MockProtocol
import Rigor.KnowledgeProgress
import Rigor.TutorLog
import Rigor.PrReview
import Rigor.Arena
import Rigor.MasteryProjection
import Rigor.IdentityEvents
import Rigor.UrlParse
import Rigor.SourceRights
import Rigor.CorpusMerge
import Rigor.OutboxBatches
import Rigor.LocalQueue
import Rigor.SandboxCreation
import Rigor.SandboxOutcomes
import Rigor.EvaluationScores
import Rigor.Matching
import Rigor.PyEqual
import Rigor.UnorderedCompare
import Rigor.SqlKeyOrder
import Rigor.Cosine
import Rigor.Similarity
import Rigor.Paging
import Rigor.CatalogPaging
import Rigor.FallingWords
import Rigor.FallingWordsRuns
import Rigor.CodeTyping
import Rigor.TypingHistory
import Rigor.BatchReferences
import Rigor.PyBytes
import Rigor.WebhookVerification
import Rigor.ObjectText
import Rigor.WebhookReplay
import Rigor.Independence
import Rigor.ReviewFairness
import Rigor.PyCsv
import Rigor.CompanyCsv
import Rigor.FirstFailure
import Rigor.Uploads
import Rigor.PyJsonLimits
import Rigor.UploadFormats
import Rigor.IsoDates
import Rigor.StudyWorkspace
import Rigor.StudyRuns
import Rigor.ConsecutiveRuns
import Rigor.ActivityStreaks
import Rigor.Comparators
import Rigor.GreedyFill
import Rigor.DailyPlan
import Rigor.QueueEvents
import Rigor.DeadLetters
import Rigor.OutboxRows
import Rigor.Transport
import Rigor.Delivery
import Rigor.DeliveryRuns
import Rigor.LocalOidc
import Rigor.ExecutionCapability
import Rigor.RateWindow
import Rigor.ArenaGenerations
import Rigor.Upserts
import Rigor.Resumption
import Rigor.LargeCorpus
import Rigor.LargeCorpusRows
import Rigor.LargeCorpusImport
import Rigor.PythonGrading
import Rigor.FileTree
import Rigor.ArchiveExtraction

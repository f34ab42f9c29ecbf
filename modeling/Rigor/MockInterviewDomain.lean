import Rigor.PyJson
import Mathlib.Data.List.Infix

/-!
# Mock interview templates

`mock_interview_domain.py`: the templates with their phases, the rubric of an
answer and the report of an interview. The arithmetic of the scores is a
parameter.
-/

namespace Rigor

open Py

variable {F : Type}

/-- Adjacent literals are one text. -/
def adjacent (literals : List Str) : Str := literals.flatten

structure MockInterviewPhase where
  slug : Str
  label : Str
  prompt : Str
  conceptGroups : List (List Str)

/-- `COMPLETE`, the phase of a session that has ended with a report. -/
def completePhase : Str := "COMPLETE"

/-- A template has a first phase, and a slug tells its phases apart, also
from the end. -/
structure MockInterviewTemplate where
  slug : Str
  label : Str
  description : Str
  competencies : List Str
  phases : List MockInterviewPhase
  opens : phases ≠ [] := by exact List.cons_ne_nil _ _
  slugs_nodup : (phases.map MockInterviewPhase.slug).Nodup := by decide
  not_complete : completePhase ∉ phases.map MockInterviewPhase.slug := by decide

def dataEngineering : MockInterviewTemplate where
  slug := "data-engineering"
  label := "Data engineering"
  description :=
    adjacent ["Design a production data platform while explaining requirements, data flow, ",
      "reliability, scale, and trade-offs."]
  competencies := ["data-architecture", "data-modeling", "distributed-systems", "reliability",
    "sql"]
  phases := [
    ⟨"problem-framing", "Problem framing",
      adjacent ["You need to design a platform that ingests operational events and serves ",
        "analytics within minutes. Clarify the requirements and the questions you ",
        "would ask before choosing an architecture."],
      [["volume", "throughput", "events per", "scale"], ["latency", "sla", "freshness", "minutes"],
       ["source", "producer", "consumer", "downstream"],
       ["quality", "schema", "contract", "accuracy"]]⟩,
    ⟨"pipeline-storage", "Pipeline & storage",
      adjacent ["Propose the end-to-end ingestion, processing, storage, and serving ",
        "architecture. Explain how data moves and where contracts are enforced."],
      [["batch", "stream", "streaming", "kafka", "queue"],
       ["warehouse", "lakehouse", "object storage", "table format"],
       ["partition", "cluster", "distribution", "sort key"],
       ["schema", "contract", "validation", "evolution"],
       ["idempot", "dedup", "exactly once", "replay"]]⟩,
    ⟨"reliability-scale", "Reliability & scale",
      adjacent ["Traffic doubles and one downstream warehouse becomes intermittent. Explain ",
        "how the platform stays correct, observable, and recoverable."],
      [["retry", "backoff", "dead letter", "dlq"], ["checkpoint", "offset", "replay", "recovery"],
       ["backpressure", "buffer", "queue", "throttle"],
       ["monitor", "metric", "alert", "observability"],
       ["failure", "degrade", "fallback", "isolate"]]⟩,
    ⟨"trade-offs", "Trade-offs",
      adjacent ["Close the design by explaining the most important trade-offs, the cost ",
        "controls you would add, and what you would intentionally defer."],
      [["cost", "budget", "compute", "storage"], ["latency", "freshness", "throughput"],
       ["consistency", "correctness", "availability"], ["complexity", "operational", "maintain"],
       ["defer", "phase", "later", "incremental"]]⟩]

def pythonEngineering : MockInterviewTemplate where
  slug := "python"
  label := "Python engineering"
  description :=
    adjacent ["Work through a production Python problem from clarification through ",
      "implementation strategy, testing, and operational follow-up."]
  competencies := ["python-engineering", "algorithms", "data-structures", "reliability"]
  phases := [
    ⟨"clarify", "Clarify",
      adjacent ["You are asked to implement a bounded in-memory work queue used by multiple ",
        "producers. What do you clarify before writing code?"],
      [["capacity", "bounded", "limit"], ["concurrency", "thread", "async", "producer"],
       ["ordering", "fifo", "priority"], ["failure", "timeout", "blocking", "backpressure"]]⟩,
    ⟨"implement", "Implement",
      adjacent ["Describe the data structures, public API, synchronization strategy, and ",
        "complexity of your implementation."],
      [["deque", "queue", "heap", "data structure"], ["lock", "condition", "asyncio", "synchron"],
       ["enqueue", "dequeue", "put", "get"], ["o(1)", "complexity", "amortized"]]⟩,
    ⟨"test", "Test",
      adjacent ["Explain the tests that would give you confidence in correctness, including ",
        "concurrency and failure behavior."],
      [["unit", "test case", "property", "invariant"], ["concurr", "race", "thread", "parallel"],
       ["boundary", "empty", "full", "capacity"], ["timeout", "failure", "cancel", "error"]]⟩,
    ⟨"production-follow-up", "Production follow-up",
      adjacent ["The queue works locally but latency spikes under load. Explain how you would ",
        "diagnose and harden it for production."],
      [["profile", "latency", "benchmark", "measure"], ["metric", "trace", "log", "observability"],
       ["contention", "lock", "hotspot", "backpressure"], ["limit", "load", "capacity", "shed"]]⟩]

def sqlReasoning : MockInterviewTemplate where
  slug := "sql"
  label := "SQL reasoning"
  description :=
    adjacent ["Reason from schema and business grain to a correct query, edge-case ",
      "validation, and an execution-plan optimization strategy."]
  competencies := ["sql", "databases", "data-modeling"]
  phases := [
    ⟨"inspect-schema", "Inspect schema",
      adjacent ["A fact table contains orders and a dimension contains customer history. ",
        "Explain the grain, keys, and assumptions you verify first."],
      [["grain", "one row", "level"], ["primary key", "foreign key", "key"],
       ["duplicate", "uniqu", "cardinality"], ["null", "missing", "history", "scd"]]⟩,
    ⟨"write-query", "Write query",
      adjacent ["You need monthly revenue and active customers by current segment. Describe ",
        "the SQL shape and how you avoid double counting."],
      [["group by", "aggregate", "sum"], ["join", "dimension", "fact"],
       ["distinct", "dedup", "double count"], ["date_trunc", "month", "date"]]⟩,
    ⟨"edge-cases", "Validate edge cases",
      adjacent ["What data conditions could make the result wrong even if the query runs ",
        "successfully, and how would you test them?"],
      [["null", "missing"], ["duplicate", "many-to-many", "cardinality"],
       ["timezone", "date boundary", "late"], ["zero", "negative", "refund", "cancel"]]⟩,
    ⟨"optimize", "Optimize",
      adjacent ["The query now scans billions of rows. Explain how you would inspect the plan ",
        "and reduce work without changing the business result."],
      [["explain", "plan", "profile"], ["index", "partition", "cluster", "pruning"],
       ["predicate", "filter", "pushdown"], ["material", "pre-aggregate", "incremental", "cache"]]⟩]

def systemDesign : MockInterviewTemplate where
  slug := "system-design"
  label := "System design"
  description :=
    adjacent ["Run a senior system-design interview from requirements and capacity through ",
      "architecture, failure handling, and operational trade-offs."]
  competencies := ["system-design", "distributed-systems", "backend-engineering", "reliability",
    "observability"]
  phases := [
    ⟨"requirements", "Requirements",
      adjacent ["Design a globally available notification service. Start by defining ",
        "functional requirements, non-functional requirements, and scope."],
      [["functional", "send", "delivery", "notification"], ["latency", "availability", "sla"],
       ["scale", "throughput", "users", "requests"], ["scope", "assumption", "out of scope"]]⟩,
    ⟨"capacity", "Capacity",
      adjacent ["Estimate the traffic, storage, and burst capacity that materially affect the ",
        "design. State assumptions rather than chasing precision."],
      [["qps", "rps", "throughput", "per second"], ["burst", "peak", "headroom"],
       ["storage", "retention", "bytes", "gb", "tb"],
       ["assumption", "estimate", "order of magnitude"]]⟩,
    ⟨"architecture", "Architecture",
      adjacent ["Walk through the main services, queues, stores, APIs, and data flow from ",
        "request acceptance to provider delivery."],
      [["api", "gateway", "service"], ["queue", "broker", "kafka", "sqs"],
       ["database", "store", "cache"], ["worker", "consumer", "provider"],
       ["idempot", "dedup", "delivery"]]⟩,
    ⟨"deep-dive", "Deep dive",
      adjacent ["A provider is slow and retries cause duplicate notifications. Deep dive into ",
        "correctness, backpressure, retry, and isolation."],
      [["retry", "backoff", "jitter"], ["idempot", "dedup", "exactly once"],
       ["backpressure", "queue", "throttle"],
       ["circuit breaker", "isolate", "bulkhead", "dead letter"]]⟩,
    ⟨"operations", "Operations",
      adjacent ["Close with observability, deployment, incident response, and the trade-offs ",
        "you would monitor after launch."],
      [["metric", "trace", "log", "observability"], ["alert", "slo", "error budget"],
       ["deploy", "canary", "rollback"], ["incident", "runbook", "on-call"]]⟩]

def aiArchitecture : MockInterviewTemplate where
  slug := "ai-architecture"
  label := "AI architecture"
  description :=
    adjacent ["Design a production LLM feature with explicit evaluation, retrieval, safety, ",
      "observability, latency, and cost boundaries."]
  competencies := ["generative-ai", "ai-infrastructure", "ai-evaluation", "ai-safety",
    "system-design"]
  phases := [
    ⟨"use-case", "Use case",
      adjacent ["Design an assistant that answers questions over a company's private ",
        "technical documentation. Define the product and model boundaries."],
      [["user", "use case", "task"], ["private", "permission", "tenant", "access"],
       ["latency", "availability", "sla"], ["ground", "citation", "source", "retrieval"]]⟩,
    ⟨"evaluation", "Evaluation",
      "Explain how you would measure answer quality before launch and continuously after launch.",
      [["dataset", "golden", "benchmark", "test set"],
       ["precision", "recall", "faithful", "correct"], ["human", "review", "label"],
       ["online", "monitor", "drift", "feedback"]]⟩,
    ⟨"architecture", "Architecture",
      adjacent ["Walk through ingestion, chunking, retrieval, model calls, caching, and how ",
        "permissions flow through the system."],
      [["chunk", "embed", "index"], ["retrieve", "rerank", "vector", "hybrid"],
       ["model", "llm", "gateway"], ["permission", "filter", "tenant", "acl"],
       ["cache", "context", "prompt"]]⟩,
    ⟨"safety", "Safety",
      adjacent ["Describe how the system handles prompt injection, sensitive data, unsafe ",
        "tool use, and unsupported claims."],
      [["prompt injection", "untrusted", "instruction"], ["pii", "sensitive", "redact", "secret"],
       ["tool", "permission", "allowlist", "sandbox"],
       ["citation", "ground", "abstain", "hallucination"]]⟩,
    ⟨"cost", "Cost & operations",
      adjacent ["The product succeeds and model spend grows rapidly. Explain how you would ",
        "control cost while preserving quality and reliability."],
      [["token", "cost", "budget"], ["cache", "batch", "smaller model", "route"],
       ["latency", "stream", "timeout"], ["metric", "trace", "observability", "usage"]]⟩]

def staffLeadership : MockInterviewTemplate where
  slug := "staff-leadership"
  label := "Staff leadership"
  description :=
    adjacent ["Practice senior technical leadership through context, decision quality, ",
      "influence, execution outcomes, and reflection."]
  competencies := ["technical-leadership", "staff-engineering", "behavioral-competencies",
    "engineering-management"]
  phases := [
    ⟨"context", "Context",
      adjacent ["Describe a technically important program where teams disagreed on ",
        "architecture. Establish the context, constraints, and your role."],
      [["context", "constraint", "goal", "problem"], ["team", "stakeholder", "organization"],
       ["role", "responsibility", "ownership"], ["risk", "deadline", "dependency"]]⟩,
    ⟨"decisions", "Decisions",
      adjacent ["Explain the hardest technical decision, the alternatives considered, the ",
        "evidence used, and why you chose the final direction."],
      [["alternative", "option", "trade-off"], ["evidence", "data", "prototype", "benchmark"],
       ["decision", "choose", "recommend"], ["risk", "cost", "impact"]]⟩,
    ⟨"influence", "Influence",
      adjacent ["How did you create alignment without relying on authority, and how did you ",
        "handle strong disagreement?"],
      [["listen", "understand", "disagree"], ["align", "stakeholder", "buy-in"],
       ["document", "rfc", "proposal"], ["facilitate", "mentor", "influence"]]⟩,
    ⟨"outcomes", "Outcomes",
      adjacent ["What measurable outcomes followed, what changed for customers or engineering ",
        "teams, and how did you know the decision worked?"],
      [["metric", "measure", "result"], ["customer", "user", "business"],
       ["reliability", "latency", "cost", "delivery"], ["adoption", "team", "productivity"]]⟩,
    ⟨"reflection", "Reflection",
      adjacent ["What would you do differently now, and what principle from the experience ",
        "changed how you operate as a staff-level engineer?"],
      [["different", "learn", "lesson"], ["feedback", "mistake", "improve"],
       ["principle", "framework", "approach"], ["next time", "future", "change"]]⟩]

def mockInterviewTemplates : List MockInterviewTemplate :=
  [dataEngineering, pythonEngineering, sqlReasoning, systemDesign, aiArchitecture, staffLeadership]

/-- `template_for`. -/
def templateFor (slug : Str) : Option MockInterviewTemplate :=
  mockInterviewTemplates.find? fun t => t.slug = slug

/-! ## Answers and reports -/

structure PhaseEvidence (F : Type) where
  phase : Str
  label : Str
  score : F
  conceptCoverage : F
  depthScore : F
  matchedConcepts : List Str
  missingConcepts : List Str
  wordCount : Nat

structure InterviewReport (F : Type) where
  overallScore : F
  rubricEvidence : List (PhaseEvidence F)
  strengths : List Str
  growthAreas : List Str
  nextSteps : List Str

/-- `str.casefold` and the arithmetic of the rubric. -/
structure Rubric (F : Type) where
  casefold : Str → Str
  /-- `matched / max(1, groups)` -/
  coverage : Nat → Nat → F
  /-- `min(1.0, words / 140)` -/
  depth : Nat → F
  /-- `0.75 * coverage + 0.25 * depth` -/
  score : F → F → F
  /-- `round(x, 4)` -/
  round : F → F
  /-- `mean` -/
  mean : List F → F
  zero : F
  /-- `score >= 0.65` -/
  strong : F → Bool
  lt : F → F → Bool

/-- `text.split()`. -/
def words (text : Str) : List Str := (text.splitOnP isSpace).filter fun word => word ≠ []

def joinWith (separator : Str) (items : List Str) : Str := separator.intercalate items

/-- `', '.join(concepts[:3]) or fallback`. -/
def namedConcepts (concepts : List Str) (fallback : Str) : Str :=
  let text := joinWith ", " (concepts.take 3)
  if text = [] then fallback else text

/-- `evaluate_response`. -/
def evaluateResponse (r : Rubric F) (phase : MockInterviewPhase) (response : Str) :
    PhaseEvidence F :=
  let spoken := words (r.casefold response)
  let normalized := joinWith " " spoken
  let hits (group : List Str) : Bool := group.any fun term => r.casefold term <:+: normalized
  let matched := (phase.conceptGroups.filter hits).filterMap List.head?
  let missing := (phase.conceptGroups.filter fun group => !hits group).filterMap List.head?
  let coverage := r.coverage matched.length phase.conceptGroups.length
  let depth := r.depth spoken.length
  { phase := phase.slug
    label := phase.label
    score := r.round (r.score coverage depth)
    conceptCoverage := r.round coverage
    depthScore := r.round depth
    matchedConcepts := matched
    missingConcepts := missing
    wordCount := spoken.length }

/-- `items or (fallback,)`. -/
def orElse (items : List Str) (fallback : Str) : List Str :=
  if items = [] then [fallback] else items

/-- `build_report`. -/
def buildReport (r : Rubric F) (evidence : List (PhaseEvidence F)) : InterviewReport F :=
  if evidence = [] then
    ⟨r.zero, [], [], ["No interview evidence was recorded."], ["Complete a full mock interview."]⟩
  else
    let weakest := (evidence.mergeSort fun a b => !r.lt b.score a.score).take 2
    { overallScore := r.round (r.mean (evidence.map PhaseEvidence.score))
      rubricEvidence := evidence
      strengths := orElse
        ((evidence.filter fun item => r.strong item.score).map fun item =>
          item.label ++ (": covered " ++ (natText item.matchedConcepts.length
            ++ " rubric concepts with useful depth." : Str) : Str))
        "Consistent completion across the interview phases."
      growthAreas := orElse
        ((evidence.filter fun item => !r.strong item.score).map fun item =>
          item.label ++ (": strengthen "
            ++ (namedConcepts item.missingConcepts "response depth" ++ "." : Str) : Str))
        "Increase specificity with measurable evidence and trade-offs."
      nextSteps := weakest.map fun item =>
        ("Rehearse " : Str) ++ (r.casefold item.label ++ (" and explicitly address "
          ++ (namedConcepts item.missingConcepts "the decision rationale" ++ "." : Str) : Str)) }

end Rigor

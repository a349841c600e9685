import Triage.Files.Disk
import Triage.Job

namespace Triage

/-! Surroundings that are held in memory: what a job finds and what it leaves. -/

/-- A place for text that may refuse it. -/
structure Sink where
  text : String
  broken : Bool
deriving DecidableEq, Repr

def Sink.write (sink : Sink) (text : String) : Except FileError Sink :=
  if sink.broken then .error (.other "broken") else .ok { sink with text := sink.text ++ text }

structure Surroundings (ρ : Type) where
  reports : ReportStore
  renderer : ρ
  /-- Suffixes by the number of those drawn before. -/
  suffixes : Nat → String
  drawn : Nat
  /-- Moments by the number of those read before. -/
  clock : Nat → Instant
  ticks : Nat
  disk : Disk
  fallback : Sink
  output : String
  errors : String
  journal : List Json.Node

namespace Surroundings

variable {ρ : Type}

def opened (renderer : ρ) (suffixes : Nat → String) (clock : Nat → Instant) (disk : Disk) :
    Surroundings ρ where
  reports := []
  renderer := renderer
  suffixes := suffixes
  drawn := 0
  clock := clock
  ticks := 0
  disk := disk
  fallback := ⟨"", false⟩
  output := ""
  errors := ""
  journal := []

/-- The reply to a change that may fail, and the surroundings after it. -/
def settle {ε α : Type} (surroundings : Surroundings ρ) (result : Except ε α)
    (update : α → Surroundings ρ) : Except ε Unit × Surroundings ρ :=
  match result with
  | .ok value => (.ok (), update value)
  | .error error => (.error error, surroundings)

def handle [Renderer ρ] : (effect : Effect) → Surroundings ρ → effect.Reply × Surroundings ρ
  | .freshSuffix, it => (it.suffixes it.drawn, { it with drawn := it.drawn + 1 })
  | .now, it => (it.clock it.ticks, { it with ticks := it.ticks + 1 })
  | .notify notice, it => ((), { it with renderer := Renderer.notify notice it.renderer })
  | .ask request, it =>
      let (response, renderer) := Renderer.ask request it.renderer
      (response, { it with renderer := renderer })
  | .log line, it => ((), { it with renderer := Renderer.log line it.renderer })
  | .createReport report, it => ((), { it with reports := it.reports.create report })
  | .changeReport runId change, it =>
      it.settle (it.reports.change runId change) fun reports => { it with reports := reports }
  | .totals runId, it => (it.reports.totals runId, it)
  | .finishReport runId moment, it =>
      match it.reports.finish runId moment with
      | .ok (report, reports) => (.ok report, { it with reports := reports })
      | .error error => (.error error, it)
  | .createDirectory path, it =>
      it.settle (it.disk.makeDirectory path) fun disk => { it with disk := disk }
  | .writeFile path text, it =>
      it.settle (it.disk.write path text) fun disk => { it with disk := disk }
  | .readFile path, it => (it.disk.read path, it)
  | .printFallback text, it =>
      it.settle (it.fallback.write text) fun sink => { it with fallback := sink }
  | .print text, it => ((), { it with output := it.output ++ text })
  | .printError text, it => ((), { it with errors := it.errors ++ text })
  | .present presentation, it =>
      ((), { it with renderer := Renderer.present presentation it.renderer })
  | .transcript, it => (Renderer.transcript it.renderer, it)
  | .note entry, it => ((), { it with journal := it.journal ++ [entry] })

/-- Does a job. -/
def exec [Renderer ρ] {α : Type} (job : Job α) (surroundings : Surroundings ρ) :
    α × Surroundings ρ :=
  job.exec handle surroundings

end Surroundings

end Triage

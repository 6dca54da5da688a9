import AiStore.ControlPlane.Ledger

/-! The loop guard: every failed attempt is recorded, and a task whose attempts repeat gets a remedy once. -/

set_option autoImplicit false

namespace AiStore.ControlPlane

/-- `str.lower`, `str.isdigit`, and the substitution of `_NOISE` with the stripping around it. -/
structure Texts where
  lower : String → String
  isdigit : String → Bool
  denoised : String → String

/-- `text[:size]`. -/
def cut (size : Nat) (text : String) : String := .ofList (text.toList.take size)

/-- Whether `marker in text`. -/
def within (marker text : String) : Bool :=
  text.toList.tails.any fun rest => marker.toList.isPrefixOf rest

namespace LoopGuard

def maxAttempts : Nat := 6
def repeatLimit : Nat := 3
def afterRemedyAttempts : Nat := 3
def timeBudgetSeconds : Int := 3 * 3600
def historySize : Nat := 20

/-- A cause, its markers in the lowered note, and the instruction for the next attempt where one helps. -/
structure Cause where
  name : String
  markers : List String
  instruction : Option String

def causes : List Cause := [
  ⟨"stray_edits", ["outside its worktree", "live checkout denied"], some
    "이전 시도가 작업 worktree 밖(C:\\smart_store 본 체크아웃)의 파일을 수정했다. 현재 작업 디렉터리 안의 상대 경로 파일만 편집하고 절대 경로로 쓰지 마라."⟩,
  ⟨"max_turns", ["error_max_turns", "max turns", "produced no change"], some
    "이전 시도가 턴을 다 쓸 때까지 파일을 하나도 바꾸지 못했다. 저장소 탐색을 줄이고, 완료조건 중 하나만 만족하는 가장 작은 변경을 처음 10턴 안에 파일로 써라. 나머지 완료조건은 다음 작업으로 남겨도 된다."⟩,
  ⟨"wall_clock", ["wall clock"], some
    "이전 시도가 시간 제한을 넘겼다. 범위를 완료조건 하나로 줄이고 테스트는 관련 모듈만 실행하라."⟩,
  ⟨"patch_apply", ["does not apply", "patch not produced", "no longer applies", "base moved"], some
    "이전 패치가 현재 HEAD에 적용되지 않았다. 현재 파일 내용을 다시 읽고 그 위에서 변경을 만들어라."⟩,
  ⟨"gate_tests", ["gate failed"], some
    "이전 패치가 객관 게이트 테스트를 깨뜨렸다(피드백의 FAIL/ERROR 목록 참조). 기존 함수 시그니처와 호출부를 바꾸지 말고, 그 테스트들이 통과하도록 고친 뒤 전체 스위트를 확인하라."⟩,
  ⟨"refusal", ["refused"], some
    "이 작업은 smart_store 저장소 안의 오프라인 코드·테스트 변경이며 외부 쓰기가 없다. 거절하지 말고 가장 작은 안전한 변경을 만들어라."⟩,
  ⟨"no_plan", ["plan named no"], some
    "수정할 기존 파일이나 새로 만들 파일을 저장소 경로로 명시하라."⟩,
  ⟨"orphaned", ["holder process is gone", "supervisor requeued stale"], none⟩,
  ⟨"infra", ["local llm error", "review error", "timeouterror", "connection", "lane paused", "throttled", "deadline",
    "scratch worktree failed"], none⟩]

/-- `UNFIXABLE`. -/
def Unfixable (cause : String) : Prop := cause = "orphaned" ∨ cause = "infra" ∨ cause = "baseline_red"

instance : DecidablePred Unfixable := fun cause => by
  unfold Unfixable
  exact inferInstance

def instructionFor (cause : String) : Option String :=
  (causes.find? fun entry => entry.name = cause).bind (·.instruction)

section

variable (texts : Texts)

/-- The failure with its ids, counts, hashes and paths removed. -/
def signature (note : String) : String := cut 120 (texts.denoised (texts.lower note))

def causeOf (note : String) : String :=
  match causes.find? fun entry => entry.markers.any (within · (texts.lower note)) with
  | some entry => entry.name
  | none => "other"

/-- The seconds since the run began, or since the attempt recorded last. -/
def chargedSeconds (task : Task) (now : Time) : Int :=
  let begin_ := match task.startedAt, task.attempts.getLast?.map (·.time) with
    | some started, some last => some (max started last)
    | some started, none => some started
    | none, last => last
  match begin_ with
  | none => 0
  | some time => max 0 ((now - time) / 1000000)

def attempt (task : Task) (note kind : String) (now : Time) : Attempt where
  time := now
  kind := kind
  cause := causeOf texts note
  sig := signature texts note
  seconds := chargedSeconds task now

/-- `items[-size:]`. -/
def lastOf {α : Type} (size : Nat) (items : List α) : List α := items.drop (items.length - size)

/-- One failed attempt more. -/
def record (task : Task) (note kind : String) (now : Time) : Task :=
  { task with attempts := lastOf historySize (task.attempts ++ [attempt texts task note kind now]) }

/-- The tests of this task's gate that fail in another task's gate too; `failing` reads them from a
task's review. -/
def baselineRed (failing : Task → List String) (task : Task) (others : List Task) : List String :=
  let mine := failing task
  mine.filter fun test => others.any fun other =>
    other.id ≠ task.id ∧ causeOf texts other.note = "gate_tests" ∧ test ∈ failing other

inductive Action where
  | remediate (instruction : String)
  | escalate
  deriving DecidableEq, Repr

structure Verdict where
  action : Action
  cause : String
  reason : String
  deriving DecidableEq, Repr

def spent (attempts : List Attempt) : Int := attempts.foldl (fun total attempt => total + attempt.seconds) 0

/-- The last attempts carry one signature. -/
def Repeated (attempts : List Attempt) : Prop :=
  repeatLimit ≤ attempts.length ∧
    ∀ first ∈ lastOf repeatLimit attempts, ∀ second ∈ lastOf repeatLimit attempts, first.sig = second.sig

instance : DecidablePred Repeated := fun attempts => by
  unfold Repeated
  exact inferInstance

/-- The attempts recorded behind the guard's own. -/
def recentOf (guard : GuardRecord) (attempts : List Attempt) : List Attempt :=
  attempts.filter fun attempt => guard.time < attempt.time

/-- Two recent attempts, and the last two carry one signature. -/
def SameAgain (recent : List Attempt) : Prop :=
  2 ≤ recent.length ∧ ∀ first ∈ lastOf 2 recent, ∀ second ∈ lastOf 2 recent, first.sig = second.sig

instance : DecidablePred SameAgain := fun recent => by
  unfold SameAgain
  exact inferInstance

def verdictOfLoop (failing : Task → List String) (task : Task) (others : List Task) (cause why : String) : Verdict :=
  let shared := if cause = "gate_tests" then baselineRed texts failing task others else []
  if shared ≠ [] then
    ⟨.escalate, "baseline_red", why ++ "; the same tests fail in other tasks' gates too, so HEAD or the environment is red: " ++
      cut 300 (String.intercalate ", " shared)⟩
  else match instructionFor cause with
    | some instruction =>
        if Unfixable cause then ⟨.escalate, cause, why ++ "; cause '" ++ cause ++ "' is not something the implementer can fix"⟩
        else ⟨.remediate instruction, cause, why⟩
    | none => ⟨.escalate, cause, why ++ "; cause '" ++ cause ++ "' is not something the implementer can fix"⟩

/-- What the loop guard says of a task, none while it does not loop. -/
def verdict (failing : Task → List String) (task : Task) (others : List Task) : Option Verdict :=
  match task.attempts.getLast? with
  | none => none
  | some last =>
      let count := task.attempts.length
      if timeBudgetSeconds < spent task.attempts then
        some ⟨.escalate, last.cause, toString (spent task.attempts / 60) ++ " minutes of worker time over " ++
          toString count ++ " attempts; the local pool is not efficient here"⟩
      else match task.loopGuard with
        | some guard =>
            let recent := recentOf guard task.attempts
            if SameAgain recent ∨ afterRemedyAttempts ≤ recent.length then
              some ⟨.escalate, last.cause, "still failing after the loop-guard remedy (" ++ toString recent.length ++
                " more attempts, last: " ++ last.cause ++ ")"⟩
            else none
        | none =>
            if Repeated task.attempts then
              some (verdictOfLoop texts failing task others last.cause "the same failure 3 times in a row")
            else if maxAttempts ≤ count then
              some (verdictOfLoop texts failing task others last.cause (toString count ++ " attempts without success"))
            else none

/-- The causes of the attempts with their counts, in the order in which they came up first. -/
def causeCounts (attempts : List Attempt) : List (String × Nat) :=
  let names := (attempts.map (·.cause)).reverse.dedup.reverse
  names.map fun name => (name, attempts.countP (·.cause = name))

def summary (task : Task) : String :=
  if task.attempts = [] then "no recorded attempts"
  else toString task.attempts.length ++ " attempts, " ++ toString (spent task.attempts / 60) ++ " min: " ++
    String.intercalate ", " ((causeCounts task.attempts).map fun (name, count) => name ++ "×" ++ toString count)

end

end LoopGuard

end AiStore.ControlPlane

/-
Where a failure comes from, told at the top.

A failure starts in one command's turn. It is the command's own failure, or the failure with
which a hook objected, and then it stands in place of the command's own. From there every
series on the way up adds one link to the chain and quotes what it was told. This file
follows the chain down again: the name, the text and the code are those of the failure at
its start, the wording is that failure's with one prefix for each series on the way, and
going from cause to cause passes exactly these series (`Plan.failure_keeps_identity`).

What the failure at the start was caused by in turn is its own affair. A command's own
failure was caused by no other failure, and by the system's reason if the command could not
be started. A hook's failure brings its own causes along, and it does not bring the
command's: when the hook after a command that could not be started objects, the reason is
lost (`Plan.objection_hides_reason`).
-/
import Taskbook.Proofs.Run.Hooks
import Mathlib.Data.List.Infix

set_option autoImplicit false

namespace Taskbook

/-! ## The chain of a failure -/

/-- What a series puts in front of a failure that it passes on. -/
def Link.words (link : Link) : String :=
  "Serial node '" ++ link.sequence ++ "' child " ++ toString link.index ++ " ('" ++ link.child ++
    "') failed: "

namespace Failure

/-- Passing a failure on changes nothing of what it says about the command. -/
theorem told_passedOn (links : List Link) (own : Failure) :
    (own.passedOn links).task = own.task ∧ (own.passedOn links).text? = own.text? ∧
      (own.passedOn links).code? = own.code? ∧ (own.passedOn links).reason? = own.reason? := by
  induction links with
  | nil => exact ⟨rfl, rfl, rfl, rfl⟩
  | cons link rest ih => exact ih

/-- The wording grows in front, by one link's words after the other. -/
theorem message_passedOn (links : List Link) (own : Failure) :
    (own.passedOn links).message = String.join (links.map Link.words) ++ own.message := by
  induction links with
  | nil => simp [passedOn]
  | cons link rest ih =>
    rw [List.map_cons, String.join_cons, String.append_assoc, ← ih]
    rfl

/-- From cause to cause, the chain passes the failure as it arrived at every series on the
way, the last time at its start. -/
theorem causes_passedOn (links : List Link) (own : Failure) :
    own.passedOn links :: (own.passedOn links).causes
      = (links.tails.map fun way => own.passedOn way) ++ own.causes := by
  induction links with
  | nil => rfl
  | cons link rest ih =>
    rw [List.tails_cons, List.map_cons, List.cons_append, ← ih]
    rfl

end Failure

/-! ## The start of the chain -/

/-- Why a call could not be started. -/
def Outcome.reason? : Outcome → Option String
  | .notStarted reason => some reason
  | _ => none

section

variable {σ : Type} {conditions : Conditions σ} {turn : Turn σ} {own : Failure}

/-- A hook objects to the turn with this failure. -/
inductive Turn.Objects (conditions : Conditions σ) (turn : Turn σ) (own : Failure) : Prop
  /-- It is the hook before the command, and the command is not attempted. -/
  | before (hook : Hook) (hhook : conditions.hooks.before = some hook)
      (hverdict : hook turn.asked = .error (.failure own))
  /-- It is the hook after the command, whatever the command by itself ended with. -/
  | after (hook : Hook) (hhook : conditions.hooks.after = some hook)
      (hverdict : hook (turn.told (turn.alone conditions).trace.records.length
        (turn.alone conditions).ending) = .error (.failure own))

/-- The command of the turn fails by itself, with this failure. -/
inductive Turn.Fails (conditions : Conditions σ) (turn : Turn σ) (own : Failure) : Prop
  /-- It returned a code that is not zero. -/
  | exited (code : Int) (hreal : conditions.site.dryRun = false)
      (hanswer : (conditions.answer turn.leaf turn.memory).1 = .exited code) (hne : code ≠ 0)
      (hown : own = .exited turn.leaf.name turn.leaf.text code)
  /-- It could not be started. -/
  | notStarted (reason : String) (hreal : conditions.site.dryRun = false)
      (hanswer : (conditions.answer turn.leaf turn.memory).1 = .notStarted reason)
      (hown : own = .notStarted turn.leaf.name turn.leaf.text reason)

/-- A command's own failure was caused by no other failure, and by the reason why the command
could not be started, if that is so. -/
theorem Turn.Fails.causes (h : turn.Fails conditions own) :
    own.causes = [] ∧ own.reason? = (conditions.answer turn.leaf turn.memory).1.reason? := by
  cases h with
  | exited code hreal hanswer hne hown =>
    rw [hown, hanswer]
    exact ⟨rfl, rfl⟩
  | notStarted reason hreal hanswer hown =>
    rw [hown, hanswer]
    exact ⟨rfl, rfl⟩

/-- A hook that is told something and fails is there, and the failure is its answer. -/
theorem Event.exists_hook_of_tell {event : Event} {hook : Option Hook} {fault : Fault}
    (h : (event.tell hook).1 = .error fault) :
    ∃ present, hook = some present ∧ present event = .error fault := by
  cases hook with
  | none => cases h
  | some present => exact ⟨present, rfl, h⟩

/-- A command by itself fails only by what was answered to its call. -/
theorem Turn.fails_of_alone (h : (turn.alone conditions).ending = .error (.failure own)) :
    turn.Fails conditions own := by
  rw [alone] at h
  cases hdry : conditions.site.dryRun with
  | true =>
    rw [(Conditions.attempt_of_dryRun hdry).1] at h
    cases h
  | false =>
    cases hanswer : (conditions.answer turn.leaf turn.memory).1 with
    | exited code =>
      rw [(Conditions.attempt_of_real hdry hanswer).1] at h
      by_cases hzero : code = 0
      · subst hzero
        cases h
      · rw [Attempt.ending_of_exited hzero] at h
        cases h
        exact .exited code hdry hanswer hzero rfl
    | notStarted reason =>
      rw [(Conditions.attempt_of_real hdry hanswer).1] at h
      cases h
      exact .notStarted reason hdry hanswer rfl
    | broken text =>
      rw [(Conditions.attempt_of_real hdry hanswer).1] at h
      cases h

/-- A turn that ends with a failure does so by the command or by one of its hooks. -/
theorem Turn.fails_or_objects (h : (turn.progress conditions).ending = .error (.failure own)) :
    turn.Fails conditions own ∨ turn.Objects conditions own := by
  cases hasked : (turn.asked.tell conditions.hooks.before).1 with
  | error fault =>
    rw [progress_of_refused hasked] at h
    cases h
    obtain ⟨hook, hhook, hverdict⟩ := Event.exists_hook_of_tell hasked
    exact .inr (.before hook hhook hverdict)
  | ok _ =>
    rw [progress_of_allowed hasked] at h
    cases htold : ((turn.told (turn.alone conditions).trace.records.length
        (turn.alone conditions).ending).tell conditions.hooks.after).1 with
    | error fault =>
      simp only [htold, Except.bind] at h
      cases h
      obtain ⟨hook, hhook, hverdict⟩ := Event.exists_hook_of_tell htold
      exact .inr (.after hook hhook hverdict)
    | ok _ =>
      simp only [htold, Except.bind] at h
      exact .inl (fails_of_alone h)

end

/-! ## The statement -/

/-- **A failure keeps the identity of the command that failed.** If a run ends with a failure,
it arose in the last turn, and the links are those on the way from the root down to that
turn's command. Name, text and code are those of the failure that the turn ended with; the
wording is that failure's after the words of the links, from the root down; and going from
cause to cause passes as many failures as there are links, the last being the one that the
turn ended with. If that is the command's own, the chain goes on with the reason why the
command could not be started, or not at all; a hook's goes on with its own causes. The
report has this one failure, and its code is the one at the start, or one if that says
nothing or claims success. -/
theorem Plan.failure_keeps_identity {σ : Type} (conditions : Conditions σ) (plan : Plan)
    (recorded : Nat) (memory : σ) (failure : Failure)
    (h : (plan.run conditions recorded memory).ending = .error (.failure failure)) :
    ∃ earlier turn links own,
      conditions.turns plan.leaves recorded memory = earlier ++ [turn] ∧
      plan.LeadsTo links (earlier.map Turn.leaf) turn.leaf ∧
      (turn.progress conditions).ending = .error (.failure own) ∧
      failure.task = own.task ∧ failure.text? = own.text? ∧ failure.code? = own.code? ∧
      failure.message = String.join (links.map Link.words) ++ own.message ∧
      failure :: failure.causes = (links.tails.map fun way => own.passedOn way) ++ own.causes ∧
      failure.reason? = own.reason? ∧
      (turn.Fails conditions own ∧ failure.causes.length = links.length ∧
          failure.reason? = (conditions.answer turn.leaf turn.memory).1.reason? ∨
        turn.Objects conditions own ∧
          failure.causes.length = links.length + own.causes.length) ∧
      ∃ report, (plan.execute conditions recorded memory).result = .ok report ∧
        report.failures = [failure] ∧ report.success = false ∧
        report.exitCode = (own.code?.filter (· != 0)).getD 1 ∧ report.exitCode ≠ 0 := by
  have htakes := Plan.run_takes conditions plan recorded memory
  obtain ⟨earlier, turn, fault, links, hturns, hending, heq, hleads⟩ := htakes.last h
  cases fault with
  | crash text => cases heq
  | failure own =>
    obtain rfl : failure = own.passedOn links := Fault.failure.inj heq
    obtain ⟨htask, htext, hcode, hreason⟩ := Failure.told_passedOn links own
    have hchain := Failure.causes_passedOn links own
    have hlength : (own.passedOn links).causes.length = links.length + own.causes.length := by
      have hlengths := congrArg List.length hchain
      rw [List.length_cons, List.length_append, List.length_map, List.length_tails] at hlengths
      omega
    have hreported : (plan.run conditions recorded memory).ending.reported
        = .ok { success := false, failures := [own.passedOn links] } := by
      rw [h]
      rfl
    refine ⟨earlier, turn, links, own, hturns, hleads, hending, htask, htext, hcode,
      Failure.message_passedOn links own, hchain, hreason, ?_, _,
      (Plan.execute_result conditions plan recorded memory).trans hreported, rfl, rfl, ?_,
      Report.exitCode_ne_zero rfl⟩
    · rcases Turn.fails_or_objects hending with hfails | hobjects
      · obtain ⟨hnone, hanswer⟩ := hfails.causes
        rw [hnone] at hlength
        exact .inl ⟨hfails, hlength, hreason.trans hanswer⟩
      · exact .inr ⟨hobjects, hlength⟩
    · rw [Ending.exitCode_of_failure hreported h, (Failure.told_by_origin _).2.2.1, hcode]

/-- Two series deep, the second command returns seven, and the hook after it objects with the
code zero. The report does not take that for success. -/
theorem Plan.objection_with_code_zero_fails :
    let shell : Shell Nat := fun _ count => (.exited (if count = 1 then 7 else 0), count + 1)
    let after : Hook := fun event =>
      if event.recorded = 2 then .error (.failure (.objection event.name "too late" (some 0)))
      else .ok ()
    let conditions : Conditions Nat :=
      ⟨shell, { directory := Dir.ofText "/srv" }, { after := some after }, {}⟩
    let plan : Plan := .serial "all" [.command "a" "make a",
      .serial "inner" [.serial "none" [], .command "b" "make b", .command "c" "make c"]]
    let failure : Failure :=
      .within "all" 1 "inner" (.within "inner" 1 "b" (.objection "b" "too late" (some 0)))
    (plan.run conditions 0 0).ending = .error (.failure failure) ∧
    failure.message
      = "Serial node 'all' child 1 ('inner') failed: Serial node 'inner' child 1 ('b') failed: too late" ∧
    ∃ report, (plan.execute conditions 0 0).result = .ok report ∧ report.failures = [failure] ∧
      report.success = false ∧ report.exitCode ≠ 0 := by
  intro shell after conditions plan failure
  refine ⟨rfl, rfl, ?_⟩
  obtain ⟨-, -, -, -, -, -, -, -, -, -, -, -, -, -, report, hresult, hfailures, hsuccess, -, hne⟩ :=
    plan.failure_keeps_identity conditions 0 0 failure rfl
  exact ⟨report, hresult, hfailures, hsuccess, hne⟩

/-- The command could not be started, and the hook after it objects. The chain of the failure
ends with the objection, which was caused by nothing: the reason does not follow. -/
theorem Plan.objection_hides_reason :
    let shell : Shell Unit := fun _ memory => (.notStarted "no shell", memory)
    let after : Hook := fun event => .error (.failure (.objection event.name "rejected" none))
    let conditions : Conditions Unit :=
      ⟨shell, { directory := Dir.ofText "/srv" }, { after := some after }, {}⟩
    let plan : Plan := .serial "all" [.command "a" "make a"]
    let progress := plan.run conditions 0 ()
    progress.trace.answered.map Prod.snd = [.notStarted "no shell"] ∧
    ∃ failure, progress.ending = .error (.failure failure) ∧
      failure.causes = [.objection "a" "rejected" none] ∧
      failure.reason? ≠ some "no shell" :=
  ⟨rfl, _, rfl, rfl, nofun⟩

end Taskbook

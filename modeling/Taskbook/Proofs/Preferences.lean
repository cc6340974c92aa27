/-
Kept preferences are those of the last reading that succeeded.

A process asks for its preferences again and again while its environment changes. What it is
given can be said without looking at what it keeps, from the calls alone. A call reads the
environment if it asks for that, or if no earlier call could have read anything
(`Preferences.Reads`): the first call at a moment when the preferences can be read does read
them. Every other call is given what the last call that read with success was given
(`Preferences.LoadedLast`), the very same edition, however the environment may have changed and
however often a reading may have failed in between.

`Preferences.History` says how what is kept hangs together with the calls so far. It is kept by
every step, and so it holds throughout.
-/
import Taskbook.Preferences
import Mathlib.Data.List.Induction

set_option autoImplicit false

namespace Taskbook

namespace Preferences

/-! ## A process and its calls -/

/-- One step of a process, as far as its preferences go. -/
inductive Step where
  /-- The environment changes. -/
  | change (edit : Environment → Environment)
  /-- The preferences are asked for. -/
  | get (reload : Bool)

/-- What a call is given: an edition of the preferences, or what is wrong. -/
abbrev Result := Except PreferencesError Edition

/-- A process: its environment, and the preferences that it keeps. -/
structure Process where
  environment : Environment
  kept : Kept := none

/-- A call: whether it asks for the environment to be read, and what that is at the moment. -/
structure Request where
  reload : Bool
  environment : Environment

/-- The environment after these steps. -/
def environmentAfter : Environment → List Step → Environment
  | environment, [] => environment
  | environment, .change edit :: rest => environmentAfter (edit environment) rest
  | environment, .get _ :: rest => environmentAfter environment rest

/-- The calls among these steps. -/
def requests : Environment → List Step → List Request
  | _, [] => []
  | environment, .change edit :: rest => requests (edit environment) rest
  | environment, .get reload :: rest => ⟨reload, environment⟩ :: requests environment rest

theorem environmentAfter_append (environment : Environment) (earlier later : List Step) :
    environmentAfter environment (earlier ++ later)
      = environmentAfter (environmentAfter environment earlier) later := by
  induction earlier generalizing environment with
  | nil => rfl
  | cons step rest ih => cases step <;> exact ih _

theorem requests_append (environment : Environment) (earlier later : List Step) :
    requests environment (earlier ++ later)
      = requests environment earlier ++ requests (environmentAfter environment earlier) later := by
  induction earlier generalizing environment with
  | nil => rfl
  | cons step rest ih =>
    cases step with
    | change edit => exact ih _
    | get reload => exact congrArg _ (ih _)

section

variable (homes : Homes)

namespace Process

/-- The process after a step, and what the step was given if it was a call. -/
def step (process : Process) : Step → Process × Option Result
  | .change edit => ({ process with environment := edit process.environment }, none)
  | .get reload =>
    let given := Preferences.get reload process.environment homes process.kept
    ({ process with kept := given.2 }, some given.1)

/-- The process after these steps. -/
def after : Process → List Step → Process
  | process, [] => process
  | process, step :: rest => after (process.step homes step).1 rest

/-- What the calls among these steps were given, in order. -/
def answers : Process → List Step → List Result
  | _, [] => []
  | process, step :: rest =>
    (process.step homes step).2.toList ++ answers (process.step homes step).1 rest

variable {homes}

theorem after_append (process : Process) (earlier later : List Step) :
    process.after homes (earlier ++ later) = (process.after homes earlier).after homes later := by
  induction earlier generalizing process with
  | nil => rfl
  | cons step rest ih => exact ih _

theorem answers_append (process : Process) (earlier later : List Step) :
    process.answers homes (earlier ++ later)
      = process.answers homes earlier ++ (process.after homes earlier).answers homes later := by
  induction earlier generalizing process with
  | nil => rfl
  | cons step rest ih =>
    rw [List.cons_append, answers, answers, ih, List.append_assoc]
    rfl

/-- Calls leave the environment alone. -/
theorem after_environment (process : Process) (steps : List Step) :
    (process.after homes steps).environment = environmentAfter process.environment steps := by
  induction steps generalizing process with
  | nil => rfl
  | cons step rest ih => cases step <;> exact ih _

/-! ## One call -/

/-- A call that reads gives what it reads, as an edition of its own, and it is kept. -/
theorem step_get_of_ok {process : Process} {reload : Bool} {preferences : Preferences}
    (hreads : reload = true ∨ process.kept = none)
    (hnow : ofEnvironment process.environment homes = .ok preferences) :
    process.step homes (.get reload)
      = ({ process with kept := some ⟨nextNumber process.kept, preferences⟩ },
          some (.ok ⟨nextNumber process.kept, preferences⟩)) := by
  obtain ⟨environment, kept⟩ := process
  cases reload with
  | true => simp only [step, get, hnow]
  | false =>
    obtain rfl : kept = none := hreads.resolve_left nofun
    simp only [step, get, hnow]

/-- A reading that fails leaves everything as it is. -/
theorem step_get_of_error {process : Process} {reload : Bool} {error : PreferencesError}
    (hreads : reload = true ∨ process.kept = none)
    (hnow : ofEnvironment process.environment homes = .error error) :
    process.step homes (.get reload) = (process, some (.error error)) := by
  obtain ⟨environment, kept⟩ := process
  cases reload with
  | true => simp only [step, get, hnow]
  | false =>
    obtain rfl : kept = none := hreads.resolve_left nofun
    simp only [step, get, hnow]

/-- A call that does not read is given what is kept, and there is such. -/
theorem step_get_of_kept {process : Process} {reload : Bool}
    (hreads : ¬(reload = true ∨ process.kept = none)) :
    ∃ edition, process.kept = some edition ∧
      process.step homes (.get reload) = (process, some (.ok edition)) := by
  obtain ⟨environment, kept⟩ := process
  obtain ⟨hreload, hkept⟩ := not_or.1 hreads
  obtain rfl : reload = false := eq_false_of_ne_true hreload
  obtain ⟨edition, rfl⟩ := Option.ne_none_iff_exists'.1 hkept
  exact ⟨edition, rfl, rfl⟩

end Process

/-! ## What the calls say about what is kept -/

/-- At the moment of this call the preferences cannot be read. -/
def Request.Unreadable (request : Request) : Prop :=
  ∀ preferences, ofEnvironment request.environment homes ≠ .ok preferences

/-- No call among these steps came at a moment when the preferences could be read. -/
def NeverReadable (environment : Environment) (steps : List Step) : Prop :=
  ∀ request ∈ requests environment steps, request.Unreadable homes

/-- A call after these steps reads the environment: it asks for that, or it comes before the first
reading that succeeds. The first call that comes when the preferences can be read is one that
reads them, so before it no call came at such a moment. -/
def Reads (environment : Environment) (earlier : List Step) (reload : Bool) : Prop :=
  reload = true ∨ NeverReadable homes environment earlier

/-- A call after these steps reads the environment with success, and is given this edition. -/
structure Loads (environment : Environment) (earlier : List Step) (reload : Bool)
    (edition : Edition) : Prop where
  reads : Reads homes environment earlier reload
  found : ofEnvironment (environmentAfter environment earlier) homes = .ok edition.preferences
  given : ((Process.after homes { environment := environment } earlier).step homes (.get reload)).2
    = some (.ok edition)

/-- The edition was loaded in these steps, and since then every call that asked for the environment
to be read has failed. -/
def LoadedLast (environment : Environment) (steps : List Step) (edition : Edition) : Prop :=
  ∃ before reload after, steps = before ++ .get reload :: after ∧
    Loads homes environment before reload edition ∧
    ∀ request ∈ requests (environmentAfter environment before) after, request.reload = true →
      request.Unreadable homes

variable {homes} {environment : Environment} {steps : List Step} {edition : Edition} {step : Step}

theorem NeverReadable.append (h : NeverReadable homes environment steps)
    (hstep : ∀ request ∈ requests (environmentAfter environment steps) [step],
      request.Unreadable homes) :
    NeverReadable homes environment (steps ++ [step]) := by
  intro request hrequest
  rw [requests_append] at hrequest
  exact (List.mem_append.1 hrequest).elim (h request) (hstep request)

/-- What was loaded could be read when it was loaded. -/
theorem LoadedLast.not_neverReadable (h : LoadedLast homes environment steps edition) :
    ¬NeverReadable homes environment steps := by
  obtain ⟨before, reload, after, rfl, hloads, -⟩ := h
  intro hnever
  refine hnever ⟨reload, environmentAfter environment before⟩ ?_ _ hloads.found
  rw [requests_append]
  exact List.mem_append_right _ List.mem_cons_self

/-- What was loaded last stays so until the environment is read again with success. -/
theorem LoadedLast.append (h : LoadedLast homes environment steps edition)
    (hstep : ∀ request ∈ requests (environmentAfter environment steps) [step],
      request.reload = true → request.Unreadable homes) :
    LoadedLast homes environment (steps ++ [step]) edition := by
  -- the loading stays where it was, and what comes behind it is one step longer
  obtain ⟨before, reload, after, rfl, hloads, hsince⟩ := h
  refine ⟨before, reload, after ++ [step], by rw [List.append_assoc]; rfl, hloads, ?_⟩
  intro request hrequest
  rw [environmentAfter_append] at hstep
  rw [requests_append] at hrequest
  exact (List.mem_append.1 hrequest).elim (hsince request) (hstep request)

/-- How what a process keeps after these steps hangs together with the calls among them. -/
structure History (homes : Homes) (environment : Environment) (steps : List Step)
    (process : Process) (answers : List Result) : Prop where
  /-- As long as nothing is kept, nothing could be read. -/
  unread : process.kept = none → NeverReadable homes environment steps
  loaded : ∀ edition, process.kept = some edition → LoadedLast homes environment steps edition
  /-- What is kept is the newest of all editions that were given. -/
  newest : ∀ other, .ok other ∈ answers →
    ∃ edition, process.kept = some edition ∧ other.number ≤ edition.number

namespace History

variable {process : Process} {answers : List Result}

/-- What is kept tells whether a call reads the environment. -/
theorem reads_iff (h : History homes environment steps process answers) {reload : Bool} :
    Reads homes environment steps reload ↔ reload = true ∨ process.kept = none := by
  refine or_congr_right ⟨fun hnever => ?_, h.unread⟩
  cases hkept : process.kept with
  | none => rfl
  | some edition => exact absurd hnever (h.loaded edition hkept).not_neverReadable

/-- The number of the next reading is one that no edition has. -/
theorem number_lt (h : History homes environment steps process answers) {other : Edition}
    (hother : .ok other ∈ answers) : other.number < nextNumber process.kept := by
  obtain ⟨edition, hkept, hle⟩ := h.newest other hother
  rw [hkept]
  exact Nat.lt_succ_of_le hle

/-- A step after which the same is kept: none of its calls could have loaded anything, and none was
given anything but what is kept. -/
theorem append_of_kept (h : History homes environment steps process answers)
    {process' : Process} {outcome : Option Result} (hkept : process'.kept = process.kept)
    (hstep : ∀ request ∈ requests (environmentAfter environment steps) [step],
      request.reload = true ∨ process.kept = none → request.Unreadable homes)
    (hgiven : ∀ edition, outcome = some (.ok edition) → process.kept = some edition) :
    History homes environment (steps ++ [step]) process' (answers ++ outcome.toList) where
  unread hnone := by
    rw [hkept] at hnone
    exact (h.unread hnone).append fun request hrequest => hstep request hrequest (.inr hnone)
  loaded edition hsome := by
    rw [hkept] at hsome
    exact (h.loaded edition hsome).append fun request hrequest hreload =>
      hstep request hrequest (.inl hreload)
  newest other hother := by
    rw [hkept]
    obtain hother | hother := List.mem_append.1 hother
    · exact h.newest other hother
    · exact ⟨other, hgiven other (Option.mem_toList.1 hother), Nat.le_refl _⟩

/-- A reading that succeeds: what it gives is new, and it is kept. -/
theorem append_of_loads (h : History homes environment steps process answers) {reload : Bool}
    {preferences : Preferences} {process' : Process}
    (hkept : process'.kept = some ⟨nextNumber process.kept, preferences⟩)
    (hloads : Loads homes environment steps reload ⟨nextNumber process.kept, preferences⟩) :
    History homes environment (steps ++ [.get reload]) process'
      (answers ++ [.ok ⟨nextNumber process.kept, preferences⟩]) where
  unread hnone := by rw [hkept] at hnone; cases hnone
  loaded edition hsome := by
    obtain rfl := Option.some.inj (hkept.symm.trans hsome)
    exact ⟨steps, reload, [], rfl, hloads, nofun⟩
  newest other hother := by
    refine ⟨_, hkept, ?_⟩
    obtain hother | hother := List.mem_append.1 hother
    · exact Nat.le_of_lt (h.number_lt hother)
    · obtain rfl := Except.ok.inj (List.mem_singleton.1 hother)
      exact Nat.le_refl _

/-- Every step of the process carries the history on. -/
theorem append (h : History homes environment steps process answers)
    (hprocess : process = Process.after homes { environment := environment } steps) :
    History homes environment (steps ++ [step]) (process.step homes step).1
      (answers ++ (process.step homes step).2.toList) := by
  have hcurrent : process.environment = environmentAfter environment steps := by
    rw [hprocess, Process.after_environment]
  cases step with
  | change edit => exact h.append_of_kept rfl nofun nofun
  | get reload =>
    by_cases hreads : reload = true ∨ process.kept = none
    · cases hnow : ofEnvironment process.environment homes with
      | ok preferences =>
        have hstep := Process.step_get_of_ok hreads hnow
        rw [hstep]
        refine h.append_of_loads rfl ⟨h.reads_iff.2 hreads, hcurrent ▸ hnow, ?_⟩
        rw [← hprocess, hstep]
      | error error =>
        -- if this call was to reload, it is one that has failed since the last loading; if nothing is
        -- kept, it is one more that could not have read anything
        rw [Process.step_get_of_error hreads hnow]
        refine h.append_of_kept rfl (fun request hrequest _ preferences hok => ?_) nofun
        obtain rfl := List.mem_singleton.1 hrequest
        rw [← hcurrent, hnow] at hok
        cases hok
    · -- the call is given what is kept, and does not read
      obtain ⟨edition, hkept, hstep⟩ := Process.step_get_of_kept hreads
      rw [hstep]
      refine h.append_of_kept rfl (fun request hrequest hask => ?_) (fun other hother => ?_)
      · obtain rfl := List.mem_singleton.1 hrequest
        exact absurd hask hreads
      · rw [hkept, Except.ok.inj (Option.some.inj hother)]

end History

/-- What a process keeps has this history after any steps. -/
theorem history (homes : Homes) (environment : Environment) (steps : List Step) :
    History homes environment steps (Process.after homes { environment := environment } steps)
      (Process.answers homes { environment := environment } steps) := by
  induction steps using List.reverseRecOn with
  | nil => exact ⟨fun _ => nofun, nofun, nofun⟩
  | append_singleton steps step ih =>
    rw [Process.after_append, Process.answers_append]
    simpa only [Process.after, Process.answers, List.append_nil] using ih.append rfl

end

/-- The preferences that a process is given, after any changes of the environment and any calls.
A call that reads the environment is given what the environment says at that moment, as an edition
unlike any that was given before, which is then kept; or it is given what is wrong with it, and
everything stays as it is. Every other call is given the very edition that was loaded last, and
everything stays as it is. -/
theorem given_are_current_or_loaded_last (homes : Homes) (environment : Environment)
    (earlier : List Step) (reload : Bool) :
    let process := Process.after homes { environment := environment } earlier
    let now := ofEnvironment (environmentAfter environment earlier) homes
    (Reads homes environment earlier reload →
      (∀ preferences, now = .ok preferences →
        ∃ edition : Edition, edition.preferences = preferences ∧
          process.step homes (.get reload)
            = ({ process with kept := some edition }, some (.ok edition)) ∧
          ∀ other, .ok other ∈ Process.answers homes { environment := environment } earlier →
            other.number ≠ edition.number) ∧
      (∀ error, now = .error error →
        process.step homes (.get reload) = (process, some (.error error)))) ∧
    (¬Reads homes environment earlier reload →
      ∃ edition, LoadedLast homes environment earlier edition ∧
        process.step homes (.get reload) = (process, some (.ok edition))) := by
  intro process now
  have hhistory := history homes environment earlier
  have hnow : ofEnvironment process.environment homes = now := by
    rw [Process.after_environment]
  -- what the calls say about a reading is what the process finds by looking at what it keeps
  refine ⟨fun hreads => ?_, fun hreads => ?_⟩
  · have hreads := hhistory.reads_iff.1 hreads
    refine ⟨fun preferences hok => ?_, fun error herror => ?_⟩
    · exact ⟨⟨nextNumber process.kept, preferences⟩, rfl,
        Process.step_get_of_ok hreads (hnow.trans hok),
        fun other hother => Nat.ne_of_lt (hhistory.number_lt hother)⟩
    · exact Process.step_get_of_error hreads (hnow.trans herror)
  · obtain ⟨edition, hkept, hstep⟩ := Process.step_get_of_kept (mt hhistory.reads_iff.2 hreads)
    exact ⟨edition, hhistory.loaded edition hkept, hstep⟩

/-- The directory comes to name a home that nobody knows. What was loaded before is still given, also
after a reading that failed, and a further reading fails as well. When the directory is forgotten,
a reading gives a new edition. -/
theorem kept_through_failed_readings :
    let homes : Homes := ⟨none, fun _ => none⟩
    let lost := Environment.set "CONTRACT_TASKS_WORKDIR" "~"
    let found := Environment.unset "CONTRACT_TASKS_WORKDIR"
    let earlier := [.get false, .change lost, .get true]
    let process := Process.after homes ⟨{}, none⟩ earlier
    let later := earlier ++ [.change found]
    (¬Reads homes {} earlier false ∧
      ∃ edition, LoadedLast homes {} earlier edition ∧
        process.step homes (.get false) = (process, some (.ok edition))) ∧
    (Reads homes {} earlier true ∧
      process.step homes (.get true) = (process, some (.error .unknownHome))) ∧
    (Reads homes {} later true ∧ ∃ edition : Edition,
      edition.preferences = ⟨"INFO", {}, some "/bin/bash", false⟩ ∧ edition.number ≠ 0 ∧
        ((Process.after homes ⟨{}, none⟩ later).step homes (.get true)).2 = some (.ok edition)) := by
  intro homes lost found earlier process later
  have hgood : ofEnvironment {} homes = .ok ⟨"INFO", {}, some "/bin/bash", false⟩ := rfl
  have hlost : ofEnvironment (environmentAfter {} earlier) homes = .error .unknownHome := rfl
  have hfound : environmentAfter {} later = {} := by decide
  have hreads : ¬Reads homes {} earlier false := by
    rintro (h | hnever)
    · cases h
    · exact hnever ⟨false, {}⟩ List.mem_cons_self _ hgood
  refine ⟨⟨hreads, (given_are_current_or_loaded_last homes {} earlier false).2 hreads⟩,
    ⟨.inl rfl, ((given_are_current_or_loaded_last homes {} earlier true).1 (.inl rfl)).2 _ hlost⟩,
    .inl rfl, ?_⟩
  obtain ⟨edition, hpreferences, hstep, hnew⟩ :=
    ((given_are_current_or_loaded_last homes {} later true).1 (.inl rfl)).1 _
      (by rw [hfound]; exact hgood)
  refine ⟨edition, hpreferences, ?_, congrArg Prod.snd hstep⟩
  exact (hnew ⟨0, ⟨"INFO", {}, some "/bin/bash", false⟩⟩ List.mem_cons_self).symm

end Preferences

end Taskbook

import Pirks.Foundation.Monitor
import Pirks.Foundation.Schedule

set_option autoImplicit false

namespace Monitor

variable {Shared Call Reply : Type}

def proceed (program : Program Shared Call Reply) (state : State Shared Call) (action : Action Call) :
    Option (State Shared Call) :=
  (step program state action).map Prod.fst

variable {program : Program Shared Call Reply} {state next : State Shared Call} {action : Action Call}
variable {thread : Nat} {call : Call}

theorem proceed_cases (taken : proceed program state action = some next) :
    (∃ thread call entry, Began state action thread call entry ∧
      next = commit program state thread call entry) ∨
    (∃ thread call timedOut, Roused program state action thread call timedOut ∧
      next = rouse state thread call timedOut) := by
  obtain ⟨⟨reached, new⟩, stepped, rfl⟩ := Option.map_eq_some_iff.mp taken
  rcases step_cases stepped with ⟨thread, call, entry, began, same, -⟩ | ⟨thread, call, timedOut, roused, same, -⟩
  · exact .inl ⟨thread, call, entry, began, same⟩
  · exact .inr ⟨thread, call, timedOut, roused, same⟩

theorem Began.proceeds {entry : Entry} (began : Began state action thread call entry)
    (taken : proceed program state action = some next) : next = commit program state thread call entry := by
  rcases proceed_cases taken with ⟨mover, made, entry', began', same⟩ | ⟨mover, made, timedOut, roused, -⟩
  · obtain ⟨rfl, rfl, rfl⟩ := began.unique began'
    exact same
  · cases began <;> cases roused

def Heard (state : State Shared Call) (thread : Nat) : Prop :=
  (∃ call, state.phase thread = .waiting call true) ∨ ∃ call timedOut, state.phase thread = .awake call timedOut

-- A thread sleeps on until it is woken or its deadline passes; a notification is not lost.
theorem proceed_waiting {notified : Bool} (taken : proceed program state action = some next)
    (asleep : state.phase thread = .waiting call notified) :
    (∃ told, next.phase thread = .waiting call told ∧ (notified = true → told = true)) ∨
      action = .wake thread ∨ action = .expire thread := by
  rcases proceed_cases taken with ⟨mover, made, entry, began, rfl⟩ | ⟨mover, made, timedOut, roused, rfl⟩
  · have apart : thread ≠ mover := by
      rintro rfl
      exact began.not_waiting asleep
    left
    rw [commit_phase_other program state apart, notifyAll]
    split <;> simp [asleep, Phase.notify]
  · by_cases same : thread = mover
    · subst same
      cases roused with
      | wake => exact .inr (.inl rfl)
      | expire => exact .inr (.inr rfl)
      | expireAwake awake => rw [asleep] at awake; cases awake
    · left
      exact ⟨notified, by rw [rouse_phase_other state same, asleep], id⟩

theorem proceed_awake {timedOut : Bool} (taken : proceed program state action = some next)
    (awake : state.phase thread = .awake call timedOut) :
    (∃ late, next.phase thread = .awake call late ∧ (timedOut = true → late = true)) ∨ action = .resume thread := by
  rcases proceed_cases taken with ⟨mover, made, entry, began, rfl⟩ | ⟨mover, made, late, roused, rfl⟩
  · by_cases same : thread = mover
    · subst same
      cases began with
      | enter idle => rw [awake] at idle; cases idle
      | resume _ => exact .inr rfl
    · left
      rw [commit_phase_other program state same, notifyAll]
      split <;> simp [awake, Phase.notify]
  · left
    by_cases same : thread = mover
    · subst same
      cases roused with
      | wake waiting | expire waiting => rw [awake] at waiting; cases waiting
      | expireAwake found =>
        rw [awake] at found
        cases found
        exact ⟨true, rouse_phase_self state thread call true, fun _ => rfl⟩
    · exact ⟨timedOut, by rw [rouse_phase_other state same, awake], id⟩

theorem proceed_resume (taken : proceed program state (.resume thread) = some next) :
    ∃ call timedOut, state.phase thread = .awake call timedOut ∧
      next = commit program state thread call (.resume timedOut) := by
  rcases proceed_cases taken with ⟨mover, made, entry, began, rfl⟩ | ⟨mover, made, late, roused, rfl⟩
  · cases began with
    | resume awake => exact ⟨_, _, awake, rfl⟩
  · cases roused

theorem proceed_leaves (taken : proceed program state action = some next)
    (leaves : action = .wake thread ∨ action = .expire thread) :
    ∃ call timedOut, next.phase thread = .awake call timedOut := by
  rcases proceed_cases taken with ⟨mover, made, entry, began, rfl⟩ | ⟨mover, made, late, roused, rfl⟩
  · rcases leaves with rfl | rfl <;> cases began
  · have same : thread = mover := by
      rcases leaves with rfl | rfl <;> cases roused <;> rfl
    subst same
    exact ⟨made, late, rouse_phase_self state thread made late⟩

theorem Heard.proceeds (heard : Heard state thread) (taken : proceed program state action = some next)
    (other : action ≠ .resume thread) : Heard next thread := by
  rcases heard with ⟨call, notified⟩ | ⟨call, timedOut, awake⟩
  · rcases proceed_waiting taken notified with ⟨told, still, kept⟩ | leaves
    · obtain rfl := kept rfl
      exact .inl ⟨call, still⟩
    · exact .inr (proceed_leaves taken leaves)
  · rcases proceed_awake taken awake with ⟨late, out, -⟩ | resumes
    · exact .inr ⟨call, late, out⟩
    · exact absurd resumes other

/-- A thread that has been notified leaves the wait set, and one that has left it gets the mutex back. -/
structure FairTo (schedule : Schedule (proceed program)) (thread : Nat) : Prop where
  leaves : schedule.Fair (fun state => ∃ call, state.phase thread = .waiting call true)
    fun action => action = .wake thread ∨ action = .expire thread
  resumes : schedule.Fair (fun state => ∃ call timedOut, state.phase thread = .awake call timedOut)
    fun action => action = .resume thread

variable {schedule : Schedule (proceed program)}

theorem FairTo.resumed {Busy Done : Nat → Prop} {time : Nat} (fair : FairTo schedule thread)
    (heard : ∀ now, Busy now → Heard (schedule.state now) thread)
    (kept : ∀ now, time ≤ now → Busy now → schedule.action now ≠ .resume thread → Busy (now + 1) ∨ Done now)
    (initial : Busy time) :
    ∃ later, time ≤ later ∧ (Done later ∨ Busy later ∧ schedule.action later = .resume thread) := by
  let Ends (now : Nat) : Prop := Done now ∨ Busy now ∧ schedule.action now = .resume thread
  let Awake (now : Nat) : Prop := ∃ call timedOut, (schedule.state now).phase thread = .awake call timedOut
  have lasts : ∀ now, time ≤ now → Busy now → Busy (now + 1) ∨ Ends now := by
    intro now since busy
    by_cases resumes : schedule.action now = .resume thread
    · exact .inr (.inr ⟨busy, resumes⟩)
    · rcases kept now since busy resumes with still | done
      · exact .inl still
      · exact .inr (.inl done)
  have woken : ∃ middle, time ≤ middle ∧ (Ends middle ∨ Busy middle ∧ Awake middle) := by
    obtain ⟨later, since, leaves⟩ := fair.leaves time
    rcases Schedule.holds_until since lasts initial with busy | ⟨reached, after, ends⟩
    · rcases heard later busy with notified | awake
      · have out := proceed_leaves (schedule.moves later) (leaves notified)
        rcases lasts later since busy with still | ends
        · exact ⟨later + 1, Nat.le_succ_of_le since, .inr ⟨still, out⟩⟩
        · exact ⟨later, since, .inl ends⟩
      · exact ⟨later, since, .inr ⟨busy, awake⟩⟩
    · exact ⟨reached, after, .inl ends⟩
  obtain ⟨middle, since, ends | ⟨busy, awake⟩⟩ := woken
  · exact ⟨middle, since, ends⟩
  · obtain ⟨later, after, resumes⟩ := fair.resumes middle
    have competes : ∀ now, middle ≤ now → Busy now ∧ Awake now → (Busy (now + 1) ∧ Awake (now + 1)) ∨ Ends now := by
      rintro now past ⟨busy, call, timedOut, out⟩
      rcases lasts now (Nat.le_trans since past) busy with still | ends
      · rcases proceed_awake (schedule.moves now) out with ⟨timedOut', there, -⟩ | resumed
        · exact .inl ⟨still, call, timedOut', there⟩
        · exact .inr (.inr ⟨busy, resumed⟩)
      · exact .inr ends
    rcases Schedule.holds_until after competes ⟨busy, awake⟩ with ⟨busy, out⟩ | ⟨reached, past, ends⟩
    · exact ⟨later, Nat.le_trans since after, .inr ⟨busy, resumes out⟩⟩
    · exact ⟨reached, Nat.le_trans since past, ends⟩

section Calls

def Inside (state : State Shared Call) (thread : Nat) (call : Call) : Prop :=
  (∃ notified, state.phase thread = .waiting call notified) ∨
    ∃ timedOut, state.phase thread = .awake call timedOut

def Answered (schedule : Schedule (proceed program)) (now thread : Nat) (call : Call) (reply : Reply) : Prop :=
  ∃ entry, Began (schedule.state now) (schedule.action now) thread call entry ∧
    (program.critical call entry (schedule.state now).shared).outcome = .returned reply

theorem Inside.commit_other {state : State Shared Call} {mover : Nat} (inside : Inside state thread call)
    (apart : thread ≠ mover) (made : Call) (entry : Entry) :
    Inside (commit program state mover made entry) thread call := by
  unfold Inside
  rw [commit_phase_other program state apart, Monitor.notifyAll]
  rcases inside with ⟨notified, asleep⟩ | ⟨timedOut, awake⟩
  · split <;> simp [asleep, Phase.notify]
  · split <;> simp [awake, Phase.notify]

theorem Heard.commit_other {state : State Shared Call} {mover : Nat} (heard : Heard state thread)
    (apart : thread ≠ mover) (made : Call) (entry : Entry) :
    Heard (commit program state mover made entry) thread := by
  unfold Heard
  rw [commit_phase_other program state apart, Monitor.notifyAll]
  rcases heard with ⟨call, asleep⟩ | ⟨call, timedOut, awake⟩
  · split <;> simp [asleep, Phase.notify]
  · split <;> simp [awake, Phase.notify]

theorem Inside.notified {state : State Shared Call} {mover : Nat} {made : Call} {entry : Entry}
    (inside : Inside state thread call) (apart : thread ≠ mover)
    (notifies : (program.critical made entry state.shared).notifies = true) :
    Heard (commit program state mover made entry) thread := by
  unfold Heard
  rw [commit_phase_other program state apart, Monitor.notifyAll, if_pos notifies]
  rcases inside with ⟨notified, asleep⟩ | ⟨timedOut, awake⟩
  · simp [asleep, Phase.notify]
  · simp [awake, Phase.notify]

theorem Inside.heard (inside : Inside state thread call)
    (told : ∀ asleep, state.phase thread ≠ .waiting asleep false) : Heard state thread := by
  rcases inside with ⟨notified, asleep⟩ | ⟨timedOut, awake⟩
  · cases notified with
    | false => exact absurd asleep (told call)
    | true => exact .inl ⟨call, asleep⟩
  · exact .inr ⟨call, timedOut, awake⟩

theorem Inside.resumes (inside : Inside state thread call) (taken : proceed program state (.resume thread) = some next) :
    ∃ timedOut, Began state (.resume thread) thread call (.resume timedOut) := by
  obtain ⟨made, timedOut, awake, -⟩ := proceed_resume taken
  rcases inside with ⟨_, found⟩ | ⟨_, found⟩ <;> rw [awake] at found <;> cases found
  exact ⟨timedOut, .resume awake⟩

theorem Inside.proceeds (inside : Inside state thread call) (taken : proceed program state action = some next) :
    Inside next thread call ∨ action = .resume thread ∧
      ∃ entry reply, Began state action thread call entry ∧
        (program.critical call entry state.shared).outcome = .returned reply := by
  rcases proceed_cases taken with ⟨mover, made, entry, began, rfl⟩ | ⟨mover, made, late, roused, rfl⟩
  · by_cases same : thread = mover
    · subst same
      have mine : action = .resume thread ∧ made = call := by
        cases began with
        | enter idle => rcases inside with ⟨_, found⟩ | ⟨_, found⟩ <;> rw [idle] at found <;> cases found
        | resume awake =>
          rcases inside with ⟨_, found⟩ | ⟨_, found⟩ <;> rw [awake] at found <;> cases found
          exact ⟨rfl, rfl⟩
      obtain ⟨resumes, rfl⟩ := mine
      cases outcome : (program.critical made entry state.shared).outcome with
      | returned reply => exact .inr ⟨resumes, entry, reply, began, outcome⟩
      | waits =>
        left
        exact .inl ⟨false, by rw [commit_phase_self, Result.phase, outcome]⟩
    · exact .inl (inside.commit_other same made entry)
  · left
    by_cases same : thread = mover
    · subst same
      have mine : made = call := by
        cases roused with
        | wake found' | expire found' | expireAwake found' =>
          rcases inside with ⟨_, found⟩ | ⟨_, found⟩ <;> rw [found'] at found <;> cases found
          rfl
      subst mine
      exact .inr ⟨late, rouse_phase_self state thread made late⟩
    · simpa [Inside, rouse_phase_other state same] using inside

theorem Inside.began_other {mover : Nat} {made : Call} {entry : Entry} (inside : Inside state thread call)
    (began : Began state action mover made entry) (other : made ≠ call ∨ action ≠ .resume thread) : thread ≠ mover := by
  rintro rfl
  cases began with
  | enter idle => rcases inside with ⟨_, found⟩ | ⟨_, found⟩ <;> rw [idle] at found <;> cases found
  | resume awake =>
    rcases inside with ⟨_, found⟩ | ⟨_, found⟩ <;> rw [awake] at found <;> cases found
    simp at other

theorem inside_until {time later : Nat} (ordered : time ≤ later) (inside : Inside (schedule.state time) thread call) :
    Inside (schedule.state later) thread call ∨
      ∃ reached reply, time ≤ reached ∧ Answered schedule reached thread call reply := by
  have lasts := Schedule.holds_until (P := fun now => Inside (schedule.state now) thread call)
    (Q := fun now => ∃ reply, Answered schedule now thread call reply) ordered
    (fun now _ still => by
      rcases still.proceeds (schedule.moves now) with there | ⟨-, entry, reply, began, outcome⟩
      · exact .inl there
      · exact .inr ⟨reply, entry, began, outcome⟩)
    inside
  rcases lasts with still | ⟨reached, since, reply, answered⟩
  · exact .inl still
  · exact .inr ⟨reached, reply, since, answered⟩

end Calls

section Timeouts

def Punctual (schedule : Schedule (proceed program)) (thread : Nat) : Prop :=
  schedule.Fair
    (fun state => ∃ call notified, state.phase thread = .waiting call notified ∧ program.timed call = true)
    fun action => action = .wake thread ∨ action = .expire thread

theorem proceed_wake (taken : proceed program state (.wake thread) = some next) : next.shared = state.shared := by
  rcases proceed_cases taken with ⟨mover, made, entry, began, -⟩ | ⟨mover, made, late, roused, rfl⟩
  · cases began
  · rfl

theorem proceed_expire {notified : Bool} (taken : proceed program state (.expire thread) = some next)
    (asleep : state.phase thread = .waiting call notified) : next.phase thread = .awake call true := by
  rcases proceed_cases taken with ⟨mover, made, entry, began, -⟩ | ⟨mover, made, late, roused, rfl⟩
  · cases began
  · cases roused with
    | expire waiting =>
      rw [asleep] at waiting
      cases waiting
      exact rouse_phase_self state thread call true
    | expireAwake awake => rw [asleep] at awake; cases awake

theorem Punctual.ends (punctual : Punctual schedule thread) (timed : program.timed call = true) {time : Nat}
    {notified : Bool} (asleep : (schedule.state time).phase thread = .waiting call notified) :
    ∃ later told, time ≤ later ∧ (schedule.state later).phase thread = .waiting call told ∧
      (schedule.action later = .wake thread ∨ schedule.action later = .expire thread) := by
  let Sleeps (now : Nat) : Prop := ∃ told, (schedule.state now).phase thread = .waiting call told
  let Leaves (now : Nat) : Prop := schedule.action now = .wake thread ∨ schedule.action now = .expire thread
  have kept : ∀ now, time ≤ now → Sleeps now → Sleeps (now + 1) ∨ Sleeps now ∧ Leaves now := by
    rintro now - ⟨told, asleep⟩
    rcases proceed_waiting (schedule.moves now) asleep with ⟨told', still, -⟩ | leaves
    · exact .inl ⟨told', still⟩
    · exact .inr ⟨⟨told, asleep⟩, leaves⟩
  obtain ⟨later, since, leaves⟩ := punctual time
  rcases Schedule.holds_until since kept ⟨notified, asleep⟩ with ⟨told, still⟩ | ⟨reached, after, ⟨told, still⟩, leaves⟩
  · exact ⟨later, told, since, still, leaves ⟨call, told, still, timed⟩⟩
  · exact ⟨reached, told, after, still, leaves⟩

theorem FairTo.waits (fair : FairTo schedule thread) {time : Nat} (inside : Inside (schedule.state time) thread call) :
    ∃ later, time ≤ later ∧ ((∃ reply, Answered schedule later thread call reply) ∨
      ∃ notified, (schedule.state later).phase thread = .waiting call notified) := by
  rcases inside with asleep | awake
  · exact ⟨time, Nat.le_refl time, .inr asleep⟩
  · let Awake (now : Nat) : Prop := ∃ timedOut, (schedule.state now).phase thread = .awake call timedOut
    have kept : ∀ now, time ≤ now → Awake now → schedule.action now ≠ .resume thread → Awake (now + 1) ∨ False := by
      rintro now - ⟨timedOut, awake⟩ other
      rcases proceed_awake (schedule.moves now) awake with ⟨late, still, -⟩ | resumes
      · exact .inl ⟨late, still⟩
      · exact absurd resumes other
    obtain ⟨later, since, none_ | ⟨⟨timedOut, awake⟩, resumes⟩⟩ :=
      fair.resumed (fun _ ⟨timedOut, out⟩ => .inr ⟨call, timedOut, out⟩) kept awake
    · exact none_.elim
    · have began : Began (schedule.state later) (schedule.action later) thread call (.resume timedOut) := by
        rw [resumes]
        exact .resume awake
      cases outcome : (program.critical call (.resume timedOut) (schedule.state later).shared).outcome with
      | returned reply => exact ⟨later, since, .inl ⟨reply, .resume timedOut, began, outcome⟩⟩
      | waits =>
        refine ⟨later + 1, Nat.le_succ_of_le since, .inr ⟨false, ?_⟩⟩
        rw [began.proceeds (schedule.moves later), commit_phase_self, Result.phase, outcome]

theorem FairTo.times_out (fair : FairTo schedule thread) {time : Nat}
    (late : (schedule.state time).phase thread = .awake call true) :
    ∃ later, time ≤ later ∧
      Began (schedule.state later) (schedule.action later) thread call (.resume true) := by
  let Late (now : Nat) : Prop := (schedule.state now).phase thread = .awake call true
  have kept : ∀ now, time ≤ now → Late now → schedule.action now ≠ .resume thread → Late (now + 1) ∨ False := by
    intro now _ late other
    rcases proceed_awake (schedule.moves now) late with ⟨timedOut, still, stays⟩ | resumes
    · obtain rfl := stays rfl
      exact .inl still
    · exact absurd resumes other
  obtain ⟨later, since, none_ | ⟨late, resumes⟩⟩ := fair.resumed (fun _ out => .inr ⟨call, true, out⟩) kept late
  · exact none_.elim
  · refine ⟨later, since, ?_⟩
    rw [resumes]
    exact .resume late

end Timeouts

section Alone

def alone (shared : Shared) (thread : Nat) (phase : Phase Call) : State Shared Call :=
  ⟨shared, Function.update (fun _ => .idle) thread phase⟩

variable {shared : Shared} {phase : Phase Call}

theorem alone_idle (shared : Shared) (thread : Nat) : alone shared thread .idle = (start shared : State Shared Call) := by
  simp only [alone, start, State.mk.injEq, true_and]
  exact Function.update_eq_self thread _

@[simp]
theorem alone_phase (shared : Shared) (thread : Nat) (phase : Phase Call) :
    (alone shared thread phase).phase thread = phase := by
  simp [alone]

theorem alone_phase_other {other : Nat} (apart : other ≠ thread) : (alone shared thread phase).phase other = .idle := by
  simp [alone, Function.update_of_ne apart]

theorem alone_notifyAll (notifies : Bool) :
    Monitor.notifyAll (alone shared thread phase).phase notifies =
      Function.update (fun _ => .idle) thread (if notifies then phase.notify else phase) := by
  funext other
  by_cases same : other = thread
  · subst same
    cases notifies <;> simp [Monitor.notifyAll]
  · cases notifies <;> simp [Monitor.notifyAll, alone_phase_other same, Function.update_of_ne same, Phase.notify]

theorem commit_alone (call : Call) (entry : Entry) :
    commit program (alone shared thread phase) thread call entry =
      alone (program.critical call entry shared).shared thread ((program.critical call entry shared).phase call) := by
  rw [commit, alone_notifyAll, Function.update_idem]
  rfl

theorem proceed_alone_enter (call : Call) :
    proceed program (alone shared thread .idle) (.enter thread call) =
      some (alone (program.critical call .enter shared).shared thread
        ((program.critical call .enter shared).phase call)) := by
  simp [proceed, step, commit_alone]

theorem proceed_alone_wake (call : Call) (notified : Bool) :
    proceed program (alone shared thread (.waiting call notified)) (.wake thread) =
      some (alone shared thread (.awake call false)) := by
  simp [proceed, step, rouse, alone]

theorem proceed_alone_expire {call : Call} (timed : program.timed call = true) (notified : Bool) :
    proceed program (alone shared thread (.waiting call notified)) (.expire thread) =
      some (alone shared thread (.awake call true)) := by
  simp [proceed, step, rouse, alone, timed]

theorem proceed_alone_resume (call : Call) (timedOut : Bool) :
    proceed program (alone shared thread (.awake call timedOut)) (.resume thread) =
      some (alone (program.critical call (.resume timedOut) shared).shared thread
        ((program.critical call (.resume timedOut) shared).phase call)) := by
  simp [proceed, step, commit_alone]

theorem proceed_alone_other {other : Nat} (apart : other ≠ thread) (call : Call) {reply : Reply}
    (returned : (program.critical call .enter shared).outcome = .returned reply) :
    proceed program (alone shared thread phase) (.enter other call) =
      some (alone (program.critical call .enter shared).shared thread
        (if (program.critical call .enter shared).notifies then phase.notify else phase)) := by
  have passes : (program.critical call .enter (alone shared thread phase).shared).phase call = .idle := by
    rw [show (alone shared thread phase).shared = shared from rfl, Result.phase, returned]
  simp only [proceed, step, alone_phase_other apart, Option.map_some, Option.some.injEq]
  rw [commit, alone_notifyAll, passes]
  simp only [alone, State.mk.injEq, true_and]
  rw [Function.update_comm apart.symm]
  congr 1
  exact Function.update_eq_self other _

end Alone

end Monitor

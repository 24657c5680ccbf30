import Pirks.Foundation.Monitor

set_option autoImplicit false

namespace Monitor

variable {Shared Call Reply : Type} {program : Program Shared Call Reply}

theorem notifyAll_notifyAll (phase : Nat → Phase Call) (first second : Bool) :
    notifyAll (notifyAll phase first) second = notifyAll phase (first || second) := by
  have again (found : Phase Call) : found.notify.notify = found.notify := by cases found <;> rfl
  cases first with
  | false => rfl
  | true =>
    cases second with
    | false => rfl
    | true =>
      funext thread
      exact again (phase thread)

theorem notifyAll_idle {phase : Nat → Phase Call} {thread : Nat} (idle : phase thread = .idle) (notifies : Bool) :
    notifyAll phase notifies thread = .idle := by
  cases notifies with
  | false => exact idle
  | true => simp [notifyAll, idle, Phase.notify]

theorem commit_returned {state : State Shared Call} {thread : Nat} {call : Call} {shared : Shared} {notifies : Bool}
    {reply : Reply} (idle : state.phase thread = .idle)
    (returned : program.critical call .enter state.shared = ⟨shared, notifies, .returned reply⟩) :
    commit program state thread call .enter = ⟨shared, notifyAll state.phase notifies⟩ := by
  have still := notifyAll_idle idle notifies
  have same : Function.update (notifyAll state.phase notifies) thread .idle = notifyAll state.phase notifies := by
    rw [← still]
    exact Function.update_eq_self _ _
  simp only [commit, returned, Result.phase, same]

inductive Serves (program : Program Shared Call Reply) : Shared → List Call → Shared → List Reply → Bool → Prop where
  | nil (shared : Shared) : Serves program shared [] shared [] false
  | cons {shared next final : Shared} {call : Call} {calls : List Call} {reply : Reply} {replies : List Reply}
      {notifies later : Bool} (first : program.critical call .enter shared = ⟨next, notifies, .returned reply⟩)
      (rest : Serves program next calls final replies later) :
      Serves program shared (call :: calls) final (reply :: replies) (notifies || later)

theorem Serves.single {shared next : Shared} {call : Call} {reply : Reply} {notifies : Bool}
    (returned : program.critical call .enter shared = ⟨next, notifies, .returned reply⟩) :
    Serves program shared [call] next [reply] notifies := by
  have served := Serves.cons returned (Serves.nil next)
  rwa [Bool.or_false] at served

theorem Serves.exec {shared final : Shared} {calls : List Call} {replies : List Reply} {notifies : Bool}
    (serves : Serves program shared calls final replies notifies) {phase : Nat → Phase Call} {thread : Nat}
    (idle : phase thread = .idle) :
    ∃ log, Monitor.exec program ⟨shared, phase⟩ (calls.map (.enter thread)) =
        some (⟨final, notifyAll phase notifies⟩, log) ∧
      log.map (fun executed => executed.result.outcome) = replies.map .returned := by
  induction serves generalizing phase with
  | nil shared => exact ⟨[], rfl, rfl⟩
  | @cons shared next final call calls reply replies notifies later first rest ih =>
    obtain ⟨log, ran, answered⟩ := ih (notifyAll_idle idle notifies)
    rw [notifyAll_notifyAll] at ran
    have taken : Monitor.step program ⟨shared, phase⟩ (.enter thread call) =
        some (⟨next, notifyAll phase notifies⟩, [executed program ⟨shared, phase⟩ thread call .enter]) := by
      have committed : commit program ⟨shared, phase⟩ thread call .enter = ⟨next, notifyAll phase notifies⟩ :=
        commit_returned idle first
      simp only [step, idle, committed]
    refine ⟨[executed program ⟨shared, phase⟩ thread call .enter] ++ log,
      Machine.run_cons.mpr ⟨_, _, log, taken, ran, rfl⟩, ?_⟩
    simp [executed, first, answered]

end Monitor

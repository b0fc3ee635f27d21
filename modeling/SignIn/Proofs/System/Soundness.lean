import SignIn.Proofs.System.Change

/-!
# The flag, the session and the store agree

In every state that a system can reach, whatever is answered and whenever the store
refuses to be read or written, the flag that others watch tells whether someone is
signed in, and the store holds exactly the session that is in memory.
-/

namespace SignIn

namespace System

/-- No event makes a sound controller unsound. -/
theorem sound_of_change {before after : System} (change : Change before after)
    (sound : before.controller.Sound) : after.controller.Sound := by
  cases change with
  | quiet quiet =>
      rw [quiet.controller]
      exact sound
  | refused refusal now _ =>
      rw [now]
      exact sound.withStore (Backing.entries_refuse _ refusal)
  | missed session error unsaved now _ =>
      rw [now]
      exact sound.miss unsaved
  | login session saved now _ _ _ =>
      rw [now]
      exact Controller.sound_enter saved
  | refresh current reputation _ _ saved now _ =>
      rw [now]
      exact Controller.sound_enter saved
  | logout now _ =>
      rw [now]
      exact Controller.sound_logout _
  | reload later now _ =>
      rw [now]
      exact sound.adopt later
  | restart later now _ =>
      rw [now]
      exact Controller.sound_ofRestored _ _ later

theorem sound_run {system : System} (sound : system.controller.Sound) (events : List Event) :
    (system.run events).controller.Sound := by
  induction events generalizing system with
  | nil => exact sound
  | cons event events ih => exact ih (sound_of_change (change_step system event) sound)

/-- In every reachable state the flag tells whether someone is signed in, and the store
holds exactly whoever is. -/
theorem watched_and_held (client : Client) (store : Backing) (later : Refusal)
    (events : List Event) :
    let controller := ((start client store later).run events).controller
    controller.watched = controller.session.isAuthenticated ∧
      ∀ session, controller.session = .authenticated session →
        controller.store.entries.Holds session := by
  have sound : ((start client store later).run events).controller.Sound :=
    sound_run (Controller.sound_ofRestored client store later) events
  exact ⟨sound.watched, sound.holds⟩

end System

end SignIn

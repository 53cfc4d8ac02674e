import Mathlib
import MeshCall.Proofs.Roster.Tiles
import MeshCall.Proofs.Journal
/-!
# Where the microphone state shows

Beyond the media, the microphone state shows in three places: on the local tile of the view, in
the envelopes that announce it to the room (joins, offers and answers, audio toggles), and in the
call saved for a restart. `Terminal.ShowsMic` reads the first off a terminal; `Announces` and
`SavesMic` read the latest of the others off the journal of a call. Each comes with how it
changes as the view takes a change or the journal grows: only the microphone of the local tile
moves what the tile shows, and only an envelope that carries a microphone state or a save moves
the others.
-/

namespace MeshCall

namespace Terminal

variable (t : Terminal)

@[simp] theorem put_buttons (id : String) (x : Tile) : (t.put id x).buttons = t.buttons := by
  unfold put
  split <;> rfl

@[simp] theorem buttons_setButtons (b : Buttons) : (t.apply (.setButtons b)).1.buttons = b := rfl

/-- Only a change of the buttons changes them. -/
@[simp] theorem buttons_apply {v : ViewCall} (hv : ∀ b, v ≠ .setButtons b) :
    (t.apply v).1.buttons = t.buttons := by
  cases v with
  | setButtons b => exact absurd rfl (hv b)
  | clear => rfl
  | _ => simp only [apply]; (repeat' split) <;> simp

/-- The tile of `self` is there, marked local, and shows the microphone as `b`. -/
def ShowsMic (t : Terminal) (self : String) (b : Bool) : Prop :=
  ∃ x, t.tile? self = some x ∧ x.isLocal = true ∧ x.audio = b

variable {t} {self id : String} {b : Bool}

@[simp] theorem showsMic_showLocal (name : String) (audio : Bool) :
    (t.apply (.showLocal self name audio)).1.ShowsMic self b ↔ audio = b := by
  simp [ShowsMic]

@[simp] theorem showsMic_addTile (h : id ≠ self) (name : String) (audio : Bool) :
    (t.apply (.addTile id name audio)).1.ShowsMic self b ↔ t.ShowsMic self b := by
  simp [ShowsMic, Ne.symm h]

/-- A local tile is never removed. -/
@[simp] theorem showsMic_removeTile :
    (t.apply (.removeTile id)).1.ShowsMic self b ↔ t.ShowsMic self b := by
  by_cases h : self = id
  · subst h
    simp only [ShowsMic, tile?_removeTile, if_true, Option.filter_eq_some_iff]
    constructor
    · rintro ⟨x, ⟨hx, -⟩, hl, ha⟩
      exact ⟨x, hx, hl, ha⟩
    · rintro ⟨x, hx, hl, ha⟩
      exact ⟨x, ⟨hx, hl⟩, hl, ha⟩
  · simp [ShowsMic, h]

/-- A local tile keeps its name. -/
@[simp] theorem showsMic_setName (name : String) :
    (t.apply (.setName id name)).1.ShowsMic self b ↔ t.ShowsMic self b := by
  by_cases h : self = id
  · subst h
    simp only [ShowsMic, tile?_setName, if_true, Option.map_eq_some_iff]
    constructor
    · rintro ⟨_, ⟨x, hx, rfl⟩, hl, ha⟩
      by_cases hx' : x.isLocal <;> simp_all
    · rintro ⟨x, hx, hl, ha⟩
      exact ⟨x, ⟨x, hx, by simp [hl]⟩, hl, ha⟩
  · simp [ShowsMic, h]

@[simp] theorem showsMic_setPeerState (st : SessionState) :
    (t.apply (.setPeerState id st)).1.ShowsMic self b ↔ t.ShowsMic self b := by
  by_cases h : self = id
  · subst h
    simp [ShowsMic]
  · simp [ShowsMic, h]

@[simp] theorem showsMic_setSpeaking (speaking : Bool) :
    (t.apply (.setSpeaking id speaking)).1.ShowsMic self b ↔ t.ShowsMic self b := by
  by_cases h : self = id
  · subst h
    simp [ShowsMic]
  · simp [ShowsMic, h]

@[simp] theorem showsMic_setMic (h : id ≠ self) (enabled : Bool) :
    (t.apply (.setMic id enabled)).1.ShowsMic self b ↔ t.ShowsMic self b := by
  simp [ShowsMic, Ne.symm h]

@[simp] theorem showsMic_setButtons (bs : Buttons) :
    (t.apply (.setButtons bs)).1.ShowsMic self b ↔ t.ShowsMic self b := Iff.rfl

/-- Setting the local microphone shows the new state. -/
theorem ShowsMic.setMic (h : t.ShowsMic self b) (enabled : Bool) :
    (t.apply (.setMic self enabled)).1.ShowsMic self enabled := by
  obtain ⟨x, hx, hl, -⟩ := h
  by_cases he : x.audio = enabled <;> simp [ShowsMic, hx, hl, he]

end Terminal

/-- The microphone state an envelope announces: joins, descriptions and audio toggles carry one.
The only descriptions written are offers and answers. -/
def Envelope.micFlag? : Envelope → Option Bool
  | .join m => some m.audioEnabled
  | .description m => some m.audioEnabled
  | .audioToggle m => some m.enabled
  | _ => none

/-- A description is written with the microphone state it is given. -/
theorem Description.audioEnabled_of_ofSession {d : SessionDescription}
    {sender recipient name : String} {audio : Bool} {m : Description}
    (h : Description.ofSession d sender recipient name audio = .ok m) : m.audioEnabled = audio := by
  unfold Description.ofSession at h
  split at h
  · cases h
    rfl
  · cases h
    rfl
  · cases h

/-- The microphone state the latest envelope that announces one announced. -/
def lastMicFlag (J : List Effect) : Option Bool := ((sent J).filterMap Envelope.micFlag?).getLast?

/-- The call a save asked the store to keep. -/
def Effect.saved? : Effect → Option SavedCall
  | .save s _ => some s
  | _ => none

/-- The calls saved, in order, whether the store took them or not. -/
def saves (J : List Effect) : List SavedCall := J.filterMap Effect.saved?

@[simp] theorem lastMicFlag_nil : lastMicFlag [] = none := rfl

@[simp] theorem lastMicFlag_cons (e : Effect) (K : List Effect) :
    lastMicFlag (e :: K) = (lastMicFlag K).or (e.sent?.bind Envelope.micFlag?) := by
  simp only [lastMicFlag, sent_cons, List.filterMap_append, List.getLast?_append]
  congr 1
  cases e.sent? <;> simp

theorem lastMicFlag_append (J K : List Effect) :
    lastMicFlag (J ++ K) = (lastMicFlag K).or (lastMicFlag J) := by
  simp [lastMicFlag, List.getLast?_append]

@[simp] theorem saves_nil : saves [] = [] := rfl

@[simp] theorem saves_cons (e : Effect) (K : List Effect) :
    saves (e :: K) = e.saved?.toList ++ saves K := by
  unfold saves
  rw [List.filterMap_cons]
  cases e.saved? <;> rfl

theorem saves_append (J K : List Effect) : saves (J ++ K) = saves J ++ saves K :=
  List.filterMap_append

/-- The latest envelope that announces a microphone state, if any, announces `b`. -/
def Announces (J : List Effect) (b : Bool) : Prop := ∀ a ∈ lastMicFlag J, a = b

@[simp] theorem announces_append (J K : List Effect) (b : Bool) :
    Announces (J ++ K) b ↔
      (lastMicFlag K = none → Announces J b) ∧ ∀ a ∈ lastMicFlag K, a = b := by
  unfold Announces
  rw [lastMicFlag_append]
  cases lastMicFlag K <;> simp

/-- The latest call saved, if any, has the microphone muted exactly when `b` is off. -/
def SavesMic (J : List Effect) (b : Bool) : Prop := ∀ s ∈ (saves J).getLast?, s.micMuted = !b

@[simp] theorem savesMic_append (J K : List Effect) (b : Bool) :
    SavesMic (J ++ K) b ↔
      (saves K = [] → SavesMic J b) ∧ ∀ s ∈ (saves K).getLast?, s.micMuted = !b := by
  unfold SavesMic
  rw [saves_append, List.getLast?_append]
  cases h : (saves K).getLast? with
  | none => simp [List.getLast?_eq_none_iff.mp h]
  | some x =>
    have hne : saves K ≠ [] := fun e => by simp [e] at h
    simp [hne]

end MeshCall

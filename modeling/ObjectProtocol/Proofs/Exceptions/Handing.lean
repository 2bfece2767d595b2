import Mathlib.Data.List.Perm.Subperm
import Mathlib.Logic.Relation
import ObjectProtocol.Proofs.Attributes.Agreement

/-!
# Questions that are handed on

A slot may hand a question on to the object in its field: whether that one has an item, or what iterates
over it.  How often this may happen is bounded by the number of instances, and the bound never shows: a
question that is handed on more often goes round in a circle.  So the answer of such an object is that of
the object inside, whether it is a value or an exception, and an exception from within passes all slots
on the way as it is.
-/

namespace ObjectProtocol

/-! ## Fuel -/

/-- The question is answered after it has been handed on exactly `n` times. -/
inductive HandedOn (hand : Value → Option Value) : Nat → Value → Prop
  | answered {v : Value} : hand v = none → HandedOn hand 0 v
  | on {v w : Value} {n : Nat} : hand v = some w → HandedOn hand n w → HandedOn hand (n + 1) v

/-- A question with fuel: `ask` spends one unit whenever it is handed on, and with none left it is `stop`.
-/
structure Fuelled {β : Type} (hand : Value → Option Value) (ask : Nat → Value → β) (stop : β) :
    Prop where
  empty : ∀ v w, hand v = some w → ask 0 v = stop
  on : ∀ v w n, hand v = some w → ask (n + 1) v = ask n w
  answered : ∀ v n m, hand v = none → ask n v = ask m v

section Fuel

variable {β : Type} {hand : Value → Option Value} {ask : Nat → Value → β} {stop : β}
  {v w : Value} {n m size : Nat}

theorem HandedOn.unique (h : HandedOn hand n v) (h' : HandedOn hand m v) : n = m := by
  induction h generalizing m with
  | answered hv =>
    cases h' with
    | answered => rfl
    | on hv' => rw [hv] at hv'; contradiction
  | on hv _ ih =>
    cases h' with
    | answered hv' => rw [hv] at hv'; contradiction
    | on hv' hw' =>
      have heq := Option.some.inj (hv.symm.trans hv')
      subst heq
      rw [ih hw']

theorem HandedOn.exists_refs (h : HandedOn hand n v)
    (hplaces : ∀ v w, hand v = some w → ∃ ref < size, v = .object ref) :
    ∃ refs : List Ref, refs.length = n ∧ refs.Nodup ∧
      ∀ ref ∈ refs, ref < size ∧ ∃ m ≤ n, 0 < m ∧ HandedOn hand m (.object ref) := by
  induction h with
  | answered => exact ⟨[], rfl, List.nodup_nil, fun ref href => by contradiction⟩
  | @on v w n hv hw ih =>
    obtain ⟨refs, hlength, hnodup, hrefs⟩ := ih
    obtain ⟨ref, hlt, rfl⟩ := hplaces v w hv
    have hfirst : HandedOn hand (n + 1) (.object ref) := .on hv hw
    refine ⟨ref :: refs, by rw [List.length_cons, hlength], ?_, ?_⟩
    · -- The others are nearer to the answer than the first one.
      refine List.nodup_cons.2 ⟨fun hmem => ?_, hnodup⟩
      obtain ⟨-, m, hm, -, hagain⟩ := hrefs ref hmem
      have heq := hfirst.unique hagain
      omega
    · intro other hother
      rcases List.mem_cons.1 hother with rfl | hother
      · exact ⟨hlt, n + 1, Nat.le_refl _, Nat.succ_pos n, hfirst⟩
      · obtain ⟨hlt', m, hm, hpos, hagain⟩ := hrefs other hother
        exact ⟨hlt', m, Nat.le_succ_of_le hm, hpos, hagain⟩

theorem HandedOn.le_size (h : HandedOn hand n v)
    (hplaces : ∀ v w, hand v = some w → ∃ ref < size, v = .object ref) : n ≤ size := by
  obtain ⟨refs, hlength, hnodup, hrefs⟩ := h.exists_refs hplaces
  have hsubset : refs ⊆ List.range size := fun ref href => List.mem_range.2 (hrefs ref href).1
  have hle := (hnodup.subperm hsubset).length_le
  rwa [hlength, List.length_range] at hle

namespace Fuelled

theorem ask_of_handedOn (h : Fuelled hand ask stop) (hv : HandedOn hand n v) (hle : n ≤ m) :
    ask m v = ask n v := by
  induction hv generalizing m with
  | answered hv => exact h.answered _ m 0 hv
  | @on v w n hv _ ih =>
    obtain ⟨m, rfl⟩ : ∃ k, m = k + 1 := ⟨m - 1, by omega⟩
    rw [h.on v w m hv, h.on v w n hv]
    exact ih (Nat.le_of_succ_le_succ hle)

/-- A question that goes round in a circle is `stop`, however much fuel there is. -/
theorem ask_of_endless (h : Fuelled hand ask stop) (hv : ∀ n, ¬ HandedOn hand n v) (m : Nat) :
    ask m v = stop := by
  obtain ⟨w, hw⟩ : ∃ w, hand v = some w := by
    cases hand' : hand v with
    | none => exact absurd (.answered hand') (hv 0)
    | some w => exact ⟨w, rfl⟩
  induction m generalizing v w with
  | zero => exact h.empty v w hw
  | succ m ih =>
    rw [h.on v w m hw]
    have hendless : ∀ n, ¬ HandedOn hand n w := fun n hn => hv (n + 1) (.on hw hn)
    cases hand' : hand w with
    | none => exact absurd (.answered hand') (hendless 0)
    | some u => exact ih hendless u hand'

/-- With fuel for as many times as there are instances, `ask` gives the answer of the value that the
question is handed on to. -/
theorem ask_of_hand (h : Fuelled hand ask stop)
    (hplaces : ∀ v w, hand v = some w → ∃ ref < size, v = .object ref) (hv : hand v = some w) :
    ask size v = ask size w := by
  -- Either somebody answers, and then all who hand on are different instances, so that the fuel is
  -- enough; or the question goes round in a circle.
  by_cases hend : ∃ n, HandedOn hand n w
  · obtain ⟨n, hn⟩ := hend
    have hfirst : HandedOn hand (n + 1) v := .on hv hn
    have hle : n + 1 ≤ size := hfirst.le_size hplaces
    rw [h.ask_of_handedOn hfirst hle, h.on v w n hv, h.ask_of_handedOn hn (Nat.le_of_succ_le hle)]
  · have hw : ∀ n, ¬ HandedOn hand n w := fun n hn => hend ⟨n, hn⟩
    have hv' : ∀ n, ¬ HandedOn hand n v := by
      intro n hn
      cases hn with
      | answered hnone => rw [hv] at hnone; contradiction
      | on hsome hn =>
        have heq := Option.some.inj (hv.symm.trans hsome)
        subst heq
        exact hw _ hn
    rw [h.ask_of_endless hv', h.ask_of_endless hw]

end Fuelled

end Fuel

/-! ## Objects that ask inside -/

namespace Store

/-- The object in the first field of an instance, if its type hands questions on. -/
def inside? (s : Store) (handsOn : TypeObject → Bool) (v : Value) : Option Value :=
  match v with
  | .object ref =>
    match s.live (s.instanceAt ref).type with
    | .error _ => none
    | .ok t =>
      if handsOn t then
        match (s.instanceAt ref).readObject 0 with
        | .ok content => some (content.getD .null)
        | .error _ => none
      else none
  | _ => none

variable {s : Store} {handsOn : TypeObject → Bool} {v w item : Value} {ref : Ref} {t : TypeObject}

theorem inside?_eq_some_iff : s.inside? handsOn v = some w ↔
    ∃ ref t content, v = .object ref ∧ s.live (s.instanceAt ref).type = .ok t ∧
      handsOn t = true ∧ (s.instanceAt ref).readObject 0 = .ok content ∧
      w = content.getD .null := by
  constructor
  · intro h
    unfold inside? at h
    split at h
    · rename_i ref
      split at h
      · contradiction
      · rename_i t hlive
        split at h
        · rename_i hon
          split at h
          · rename_i content hread
            exact ⟨ref, t, content, rfl, hlive, hon, hread, (Option.some.inj h).symm⟩
          · contradiction
        · contradiction
    · contradiction
  · -- Each hypothesis decides one of the matches.
    rintro ⟨ref, t, content, rfl, hlive, hon, hread, rfl⟩
    unfold inside?
    dsimp only
    rw [hlive]
    dsimp only
    rw [if_pos hon, hread]

/-- The object inside is missing only where the field cannot be read. -/
theorem exists_readObject_error (h : s.inside? handsOn (.object ref) = none)
    (hlive : s.live (s.instanceAt ref).type = .ok t) (hon : handsOn t = true) :
    ∃ f, (s.instanceAt ref).readObject 0 = .error f := by
  cases hread : (s.instanceAt ref).readObject 0 with
  | ok content =>
    have hsome := inside?_eq_some_iff.2 ⟨ref, t, content, rfl, hlive, hon, hread, rfl⟩
    rw [h] at hsome
    contradiction
  | error f => exact ⟨f, rfl⟩

theorem exists_ref_of_inside? (h : s.inside? handsOn v = some w) :
    ∃ ref < s.instances.size, v = .object ref := by
  obtain ⟨ref, t, content, rfl, -, -, hread, -⟩ := inside?_eq_some_iff.1 h
  refine ⟨ref, lt_size_of_instanceAt_ne fun hdefault => ?_, rfl⟩
  -- Where there is no instance, there is no field.
  rw [hdefault] at hread
  contradiction

end Store

theorem NativeError.mapError_raising {α : Type} (x : Except Exception α) :
    (raising x).mapError toException = x := by
  cases x <;> rfl

/-! ## Containment -/

/-- `ContainsSlot.inObject`: instances ask the object inside whether it has an item. -/
def TypeObject.asksInside (t : TypeObject) : Bool := t.findSlot? (·.contains) = some .inObject

theorem ContainsSlot.run_congr {slot : ContainsSlot} (h : slot ≠ .inObject) (s : Store)
    (i : Instance) (item : Value) (f g : Value → Except Exception Bool) :
    slot.run s i item f = slot.run s i item g := by
  cases slot with
  | inObject => contradiction
  | equalsObject | equalsInt | counter => rfl

namespace Store

variable {s : Store} {v w item : Value} {ref : Ref} {t : TypeObject}

theorem containsWithin_object (hlive : s.live (s.instanceAt ref).type = .ok t)
    {slot : ContainsSlot} (hslot : t.findSlot? (·.contains) = some slot) (n : Nat) :
    s.containsWithin n (.object ref) item =
      (slot.run s (s.instanceAt ref) item fun inner =>
        match n with
        | 0 => .error endless
        | n + 1 => s.containsWithin n inner item).mapError NativeError.toException := by
  rw [containsWithin.eq_def]
  dsimp only
  rw [hlive]
  dsimp only
  rewrite [hslot]
  rfl

theorem fuelled_containsWithin (s : Store) (item : Value) :
    Fuelled (s.inside? TypeObject.asksInside) (fun n v => s.containsWithin n v item)
      (.error endless) := by
  have honce (n : Nat) {v w : Value} (h : s.inside? TypeObject.asksInside v = some w) :
      s.containsWithin n v item =
        (match n with
          | 0 => .error endless
          | n + 1 => s.containsWithin n w item) := by
    obtain ⟨ref, t, content, rfl, hlive, hon, hread, rfl⟩ := inside?_eq_some_iff.1 h
    have hslot : t.findSlot? (·.contains) = some .inObject := of_decide_eq_true hon
    rw [containsWithin_object hlive hslot]
    unfold ContainsSlot.run
    rw [hread]
    exact NativeError.mapError_raising _
  refine ⟨fun v w h => honce 0 h, fun v w n h => honce (n + 1) h, fun v n m h => ?_⟩
  cases v with
  | object ref =>
    cases hlive : s.live (s.instanceAt ref).type with
    | error e =>
      rw [containsWithin.eq_def, containsWithin.eq_def s m]
      dsimp only
      rw [hlive]
    | ok t =>
      cases hslot : t.findSlot? (·.contains) with
      | none =>
        rw [containsWithin.eq_def, containsWithin.eq_def s m]
        dsimp only
        rw [hlive]
        dsimp only
        rw [hslot]
      | some slot =>
        rw [containsWithin_object hlive hslot, containsWithin_object hlive hslot]
        by_cases heq : slot = .inObject
        · -- The slot would hand the question on if there were an object to read.
          subst heq
          obtain ⟨f, hread⟩ := exists_readObject_error h hlive (decide_eq_true hslot)
          unfold ContainsSlot.run
          rw [hread]
          rfl
        · rw [ContainsSlot.run_congr heq]
  | null | bool | int | float | str | tuple | list | dict | type | function | method | iterator =>
    cases n <;> cases m <;> rfl

/-- `Store.contains` of an instance that asks inside is that of the object inside, exceptions included. -/
theorem contains_of_inside? (h : s.inside? TypeObject.asksInside v = some w) (item : Value) :
    s.contains v item = s.contains w item :=
  (s.fuelled_containsWithin item).ask_of_hand (fun _ _ => exists_ref_of_inside?) h

theorem contains_object (hlive : s.live (s.instanceAt ref).type = .ok t) {slot : ContainsSlot}
    (hslot : t.findSlot? (·.contains) = some slot) (item : Value) :
    s.contains (.object ref) item =
      (slot.run s (s.instanceAt ref) item fun inner => s.contains inner item).mapError
        NativeError.toException := by
  -- Every other slot answers by itself, without the fuel.
  by_cases heq : slot = .inObject
  · subst heq
    cases hread : (s.instanceAt ref).readObject 0 with
    | ok content =>
      have hinside : s.inside? TypeObject.asksInside (.object ref) = some (content.getD .null) :=
        inside?_eq_some_iff.2 ⟨ref, t, content, rfl, hlive, decide_eq_true hslot, hread, rfl⟩
      rw [contains_of_inside? hinside]
      unfold ContainsSlot.run
      rw [hread]
      exact (NativeError.mapError_raising _).symm
    | error f =>
      unfold contains
      rw [containsWithin_object hlive hslot]
      unfold ContainsSlot.run
      rw [hread]
      rfl
  · unfold contains
    rw [containsWithin_object hlive hslot, ContainsSlot.run_congr heq]

end Store

/-! ## Iteration -/

/-- `IterSlot.ofObject`: instances are iterated over by an iterator of the object inside. -/
def TypeObject.iteratesInside (t : TypeObject) : Bool := t.findSlot? (·.iter) = some .ofObject

theorem IterSlot.run_congr {slot : IterSlot} (h : slot ≠ .ofObject) (rt : Runtime) (i : Instance)
    (f g : Value → Except Exception Sketch) : slot.run rt i f = slot.run rt i g := by
  cases slot with
  | ofObject => contradiction
  | positions | rawObject | counter => rfl

namespace Store

variable {s : Store} {v w : Value} {ref : Ref} {t : TypeObject} {rt : Runtime}

theorem iterWithin_object (hlive : s.live (s.instanceAt ref).type = .ok t)
    {slot : IterSlot} (hslot : t.findSlot? (·.iter) = some slot) (n : Nat) :
    s.iterWithin rt n (.object ref) =
      (slot.run rt (s.instanceAt ref) fun inner =>
        match n with
        | 0 => .error endless
        | n + 1 => s.iterWithin rt n inner).mapError NativeError.toException := by
  rw [iterWithin.eq_def]
  dsimp only
  rw [hlive]
  dsimp only
  rewrite [hslot]
  rfl

theorem fuelled_iterWithin (s : Store) (rt : Runtime) :
    Fuelled (s.inside? TypeObject.iteratesInside) (fun n v => s.iterWithin rt n v)
      (.error endless) := by
  -- One unit of fuel for each time that the question is handed on.
  have honce (n : Nat) {v w : Value} (h : s.inside? TypeObject.iteratesInside v = some w) :
      s.iterWithin rt n v =
        (match n with
          | 0 => .error endless
          | n + 1 => s.iterWithin rt n w) := by
    obtain ⟨ref, t, content, rfl, hlive, hon, hread, rfl⟩ := inside?_eq_some_iff.1 h
    have hslot : t.findSlot? (·.iter) = some .ofObject := of_decide_eq_true hon
    rw [iterWithin_object hlive hslot]
    unfold IterSlot.run
    rw [hread]
    exact NativeError.mapError_raising _
  -- What is left to show is that fuel does not matter to a value that answers itself.
  refine ⟨fun v w h => honce 0 h, fun v w n h => honce (n + 1) h, fun v n m h => ?_⟩
  cases v with
  | object ref =>
    cases hlive : s.live (s.instanceAt ref).type with
    | error e =>
      rw [iterWithin.eq_def, iterWithin.eq_def s rt m]
      dsimp only
      rw [hlive]
    | ok t =>
      cases hslot : t.findSlot? (·.iter) with
      | none =>
        rw [iterWithin.eq_def, iterWithin.eq_def s rt m]
        dsimp only
        rw [hlive]
        dsimp only
        rw [hslot]
      | some slot =>
        rw [iterWithin_object hlive hslot, iterWithin_object hlive hslot]
        by_cases heq : slot = .ofObject
        · subst heq
          obtain ⟨f, hread⟩ := exists_readObject_error h hlive (decide_eq_true hslot)
          unfold IterSlot.run
          rw [hread]
          rfl
        · rw [IterSlot.run_congr heq]
  | null | bool | int | float | str | tuple | list | dict | type | function | method | iterator =>
    cases n <;> cases m <;> rfl

/-- `Store.iter` of such an instance is that of the object inside. -/
theorem iter_of_inside? (h : s.inside? TypeObject.iteratesInside v = some w) (rt : Runtime) :
    s.iter rt v = s.iter rt w :=
  (s.fuelled_iterWithin rt).ask_of_hand (fun _ _ => exists_ref_of_inside?) h

theorem iter_object (hlive : s.live (s.instanceAt ref).type = .ok t) {slot : IterSlot}
    (hslot : t.findSlot? (·.iter) = some slot) (rt : Runtime) :
    s.iter rt (.object ref) =
      (slot.run rt (s.instanceAt ref) fun inner => s.iter rt inner).mapError
        NativeError.toException := by
  -- Every other slot makes its iterator by itself, without the fuel.
  by_cases heq : slot = .ofObject
  · subst heq
    cases hread : (s.instanceAt ref).readObject 0 with
    | ok content =>
      have hinside : s.inside? TypeObject.iteratesInside (.object ref) =
          some (content.getD .null) :=
        inside?_eq_some_iff.2 ⟨ref, t, content, rfl, hlive, decide_eq_true hslot, hread, rfl⟩
      rw [iter_of_inside? hinside]
      unfold IterSlot.run
      rw [hread]
      exact (NativeError.mapError_raising _).symm
    | error f =>
      unfold iter
      rw [iterWithin_object hlive hslot]
      unfold IterSlot.run
      rw [hread]
      rfl
  · unfold iter
    rw [iterWithin_object hlive hslot, IterSlot.run_congr heq]

/-! ## Towers of slots -/

/-- The question is handed on from the one value to the other by `inside?`, any number of times. -/
def PassesTo (s : Store) (handsOn : TypeObject → Bool) : Value → Value → Prop :=
  Relation.ReflTransGen fun v w => s.inside? handsOn v = some w

theorem contains_of_passesTo (h : s.PassesTo TypeObject.asksInside v w) (item : Value) :
    s.contains v item = s.contains w item := by
  induction h with
  | refl => rfl
  | tail _ hlast ih => exact ih.trans (contains_of_inside? hlast item)

theorem iter_of_passesTo (h : s.PassesTo TypeObject.iteratesInside v w) (rt : Runtime) :
    s.iter rt v = s.iter rt w := by
  induction h with
  | refl => rfl
  | tail _ hlast ih => exact ih.trans (iter_of_inside? hlast rt)

end Store

end ObjectProtocol

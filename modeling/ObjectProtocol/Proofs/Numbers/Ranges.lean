import ObjectProtocol.Proofs.Arguments.Parsing
import ObjectProtocol.Proofs.Calls.Balance
import ObjectProtocol.Proofs.Iteration.Standing
import ObjectProtocol.Proofs.Sequences.Adding

/-!
# Numbers stay in their ranges

Native integers have 64 bits and host integers 128, and not every sum is checked for whether it fits.
What is not checked is guarded: a position is only moved on below a bound, an index is only counted from
the end when it is negative, and a call is only counted below the limit.  How much of an iterator remains
has no guard of its own and rests on where iterators can stand.
-/

namespace ObjectProtocol

/-! ## Positions -/

/-- `Cursor.step` below the bound adds one without leaving the range, wherever position and bound are. -/
theorem Cursor.exists_step_of_lt {p bound : NativeInt} (h : p.val < bound.val) :
    ∃ q, p.add? 1 = some q ∧ q.val = p.val + 1 ∧ (active p).step bound = (active q, some p) := by
  have hlower := p.lower
  have hupper := bound.upper
  let q : NativeInt := ⟨p.val + 1, by omega, by omega⟩
  exact ⟨q, NativeInt.ofInt?_eq_some_iff.2 rfl, rfl, Cursor.step_of_lt h rfl⟩

theorem Cursor.active_of_step {c next : Cursor} {p bound : NativeInt}
    (h : c.step bound = (next, some p)) : c = active p ∧ p.val < bound.val := by
  cases c with
  | exhausted =>
    rw [step_exhausted] at h
    cases h
  | active q =>
    by_cases hlt : q.val < bound.val
    · obtain ⟨_, -, -, heq⟩ := exists_step_of_lt hlt
      rw [heq] at h
      cases h
      exact ⟨rfl, hlt⟩
    · rw [step_of_le (Int.not_lt.1 hlt)] at h
      cases h

namespace Iterator

variable {it : Iterator} {n : Nat}

theorem At.val_eq (h : it.At n) {p : NativeInt} (hp : it.cursor = .active p) :
    p.val = n ∧ n ≤ it.bound.val.toNat := by
  unfold At at h
  rw [hp] at h
  split at h
  · rename_i hle
    rw [← length_contents, Cursor.active.inj h]
    exact ⟨val_ofCount_of_le hle, hle⟩
  · contradiction

/-- For an iterator that has only been advanced, `remaining` is the exact difference, whatever its bound.
-/
theorem At.remaining_exact (h : it.At n) {p : NativeInt} (hp : it.cursor = .active p) :
    0 ≤ p.val ∧ NativeInt.InRange (it.bound.val - p.val) ∧
      (it.bound.saturatingSub p).val = it.bound.val - p.val ∧
      (it.remaining : Int) = max (it.bound.val - p.val) 0 := by
  obtain ⟨hval, hle⟩ := h.val_eq hp
  have hlower := it.bound.lower
  have hupper := it.bound.upper
  -- Below a negative bound there is no position but 0, so the difference is never less than the bound.
  have hexact : (it.bound.saturatingSub p).val = it.bound.val - p.val := by
    unfold NativeInt.saturatingSub NativeInt.saturate
    dsimp only
    omega
  refine ⟨by omega, ⟨by omega, by omega⟩, hexact, ?_⟩
  unfold remaining
  rw [hp]
  dsimp only
  rw [hexact, Int.toNat_eq_max]

theorem At.place_lt (h : it.At n) {snapshot : Array Value} (hsource : it.source = .items snapshot)
    {next : Cursor} {p : NativeInt} (hstep : it.cursor.step it.bound = (next, some p)) :
    0 ≤ p.val ∧ ∃ hlt : p.val.toNat < snapshot.size, it.advance.2 = some snapshot[p.val.toNat] := by
  obtain ⟨hcursor, hbound⟩ := Cursor.active_of_step hstep
  obtain ⟨hval, -⟩ := h.val_eq hcursor
  -- The bound is the number of the items, or less if they are too many to be counted.
  have hsize : it.bound.val.toNat ≤ snapshot.size := by
    unfold bound
    rw [hsource]
    dsimp only
    rw [NativeInt.toNat_ofCount]
    exact Nat.min_le_right _ _
  have hlt : p.val.toNat < snapshot.size := by omega
  refine ⟨by omega, hlt, ?_⟩
  unfold advance
  rw [hstep]
  show it.valueAt p = _
  unfold valueAt
  rw [hsource]
  dsimp only
  rw [if_neg (by omega), Array.getElem?_eq_getElem hlt]

end Iterator

/-! ## Places and conversions -/

/-- A negative index with the count added is a `HostInt` again, the least one included. -/
theorem HostInt.exists_place (index : HostInt) {count : HostInt} (hcount : 0 ≤ count.val) :
    ∃ place : HostInt, (if index.val < 0 then index.add? count else some index) = some place ∧
      place.val = if index.val < 0 then index.val + count.val else index.val := by
  by_cases hneg : index.val < 0
  · have hlower := index.lower
    have hupper := count.upper
    let place : HostInt := ⟨index.val + count.val, by omega, by omega⟩
    refine ⟨place, ?_, (if_pos hneg).symm⟩
    rw [if_pos hneg]
    exact HostInt.ofInt?_eq_some_iff.2 rfl
  · exact ⟨index, if_neg hneg, (if_neg hneg).symm⟩

namespace Store

variable {v w : Value}

/-- The place that an index names is a `HostInt`, and `itemAt` gives the item there or fails. -/
theorem itemAt_cases (s : Store) (items : Array Value) (kind : String) {count index : HostInt}
    (hcount : count.val = items.size) (hkey : v.asInt? = some index) :
    ∃ place, (if index.val < 0 then index.add? count else some index) = some place ∧
      (∀ hplace : 0 ≤ place.val ∧ place.val.toNat < items.size,
        s.itemAt items v kind = .ok items[place.val.toNat]) ∧
      (¬ (0 ≤ place.val ∧ place.val.toNat < items.size) →
        s.itemAt items v kind = .error ⟨.indexError, kind ++ " index out of range"⟩) := by
  obtain ⟨place, hsum, hval⟩ := index.exists_place (show 0 ≤ count.val by omega)
  refine ⟨place, hsum, fun hplace => ?_, fun hplace => ?_⟩
  · refine s.itemAt_of_place hplace.2 hkey ?_ kind
    split at hval <;> omega
  · refine s.itemAt_of_no_place hkey ?_ kind
    split at hval <;> omega

theorem toNative_cases (s : Store) {i : HostInt} (hv : v.asInt? = some i) :
    (∃ n, s.toNative v = .ok n ∧ n.val = i.val) ∨
      ¬ NativeInt.InRange i.val ∧ ∃ f, s.toNative v = .error f ∧ f.code = .outOfRange := by
  cases hnative : i.toNative? with
  | some n =>
    refine Or.inl ⟨n, ?_, HostInt.toNative?_eq_some_iff.1 hnative⟩
    unfold toNative
    rw [hv]
    dsimp only
    rw [hnative]
  | none =>
    refine Or.inr ⟨NativeInt.ofInt?_eq_none_iff.1 hnative, ?_⟩
    unfold toNative
    rw [hv]
    dsimp only
    rw [hnative]
    exact ⟨_, rfl, rfl⟩

theorem add_cases (s : Store) {i j : HostInt} (hv : v.asInt? = some i) (hw : w.asInt? = some j) :
    (∃ k : HostInt, s.add v w = .ok (.given (.int k)) ∧ k.val = i.val + j.val) ∨
      ¬ HostInt.InRange (i.val + j.val) ∧
        s.add v w = .error ⟨.overflowError, "integer addition overflowed"⟩ := by
  rw [add_of_asInt? hv hw]
  cases hsum : i.add? j with
  | some k => exact Or.inl ⟨k, rfl, HostInt.ofInt?_eq_some_iff.1 hsum⟩
  | none => exact Or.inr ⟨HostInt.ofInt?_eq_none_iff.1 hsum, rfl⟩

end Store

namespace Config

variable {c : Config}

/-! ## Calls -/

theorem call_takes_level {target : Value} {args : List Value}
    (hcontrol : c.control = .call target args) :
    (c.depth < c.limit → c.step.depth = c.depth + 1) ∧
      (c.limit ≤ c.depth → c.step.depth = c.depth ∧ c.step.control = .raise tooDeep) := by
  refine ⟨fun hlt => ?_, fun hle => ?_⟩
  · -- The level is counted before the callee is run, and neither takes nor gives back another.
    rw [step_call_of_depth_lt hcontrol hlt]
    obtain ⟨top, -, hgrows⟩ := exists_grows_dispatch
      ((c.ready.setDepth (c.ready.depth + 1)).push (.activation (c.ready.keptBy target args))) target args
    exact hgrows.depth.trans (congrArg (· + 1) c.depth_ready)
  · obtain ⟨ready, hready, hstep⟩ := step_call_of_limit_le hcontrol hle
    rw [hstep]
    refine ⟨?_, rfl⟩
    rcases hready with rfl | rfl
    · rfl
    · exact congrArg Runtime.depth c.runtime_sweep

/-! ## Main result -/

/-- In every `Reachable` configuration, no number leaves its range: `Cursor.step` at any position and
bound yields native integers; an index counted from the end is a `HostInt`; `depth` stays within the
limit; `remaining` is an exact difference; a position yielded from a snapshot is the place of an item;
fields hold native integers; and `toNative` and `add` on host integers are exact or refused. -/
theorem arithmetic_in_range (h : c.Reachable) :
    let s := c.session.host.store
    (∀ p bound : NativeInt,
      (p.val < bound.val → ∃ q, p.add? 1 = some q ∧ q.val = p.val + 1 ∧
        (Cursor.active p).step bound = (.active q, some p)) ∧
      (bound.val ≤ p.val → (Cursor.active p).step bound = (.exhausted, none))) ∧
    (∀ (items : Array Value) (kind : String) (key : Value) (count index : HostInt),
      count.val = items.size → key.asInt? = some index →
      ∃ place, (if index.val < 0 then index.add? count else some index) = some place ∧
        (∀ hplace : 0 ≤ place.val ∧ place.val.toNat < items.size,
          s.itemAt items key kind = .ok items[place.val.toNat]) ∧
        (¬ (0 ≤ place.val ∧ place.val.toNat < items.size) →
          s.itemAt items key kind = .error ⟨.indexError, kind ++ " index out of range"⟩)) ∧
    (c.depth ≤ c.limit ∧ ∀ target args, c.control = .call target args →
      (c.depth < c.limit → c.step.depth = c.depth + 1 ∧ c.depth + 1 ≤ c.limit) ∧
      (c.limit ≤ c.depth → c.step.depth = c.depth ∧ c.step.control = .raise tooDeep)) ∧
    (∀ ref,
      let it := s.iteratorAt ref
      (∀ p, it.cursor = .active p →
        0 ≤ p.val ∧ NativeInt.InRange (it.bound.val - p.val) ∧
          (it.bound.saturatingSub p).val = it.bound.val - p.val ∧
          (it.remaining : Int) = max (it.bound.val - p.val) 0) ∧
      ∀ snapshot next p, it.source = .items snapshot → it.cursor.step it.bound = (next, some p) →
        0 ≤ p.val ∧ ∃ hlt : p.val.toNat < snapshot.size,
          it.advance.2 = some snapshot[p.val.toNat]) ∧
    (∀ ref n, .int n ∈ (s.instanceAt ref).fields → NativeInt.InRange n.val) ∧
    ∀ v i, v.asInt? = some i → HostInt.InRange i.val ∧
      ((∃ n, s.toNative v = .ok n ∧ n.val = i.val) ∨
        ¬ NativeInt.InRange i.val ∧ ∃ f, s.toNative v = .error f ∧ f.code = .outOfRange) ∧
      ∀ w j, w.asInt? = some j →
        (∃ k : HostInt, s.add v w = .ok (.given (.int k)) ∧ k.val = i.val + j.val) ∨
          ¬ HostInt.InRange (i.val + j.val) ∧
            s.add v w = .error ⟨.overflowError, "integer addition overflowed"⟩ := by
  intro s
  refine ⟨fun p bound => ⟨Cursor.exists_step_of_lt, Cursor.step_of_le⟩,
    fun items kind key count index => s.itemAt_cases items kind, ⟨h.depth_le, fun target args hcontrol => ?_⟩,
    fun ref => ?_, fun ref n _ => n.inRange_val, fun v i hv => ?_⟩
  · obtain ⟨hbelow, hlimit⟩ := call_takes_level hcontrol
    exact ⟨fun hlt => ⟨hbelow hlt, hlt⟩, hlimit⟩
  · -- That iterators have only been advanced is what keeps `remaining` exact and places inside the
    -- snapshot.
    obtain ⟨n, hn⟩ := h.advanced ref
    exact ⟨fun p => hn.remaining_exact, fun snapshot next p hsource hstep => hn.place_lt hsource hstep⟩
  · exact ⟨i.inRange_val, s.toNative_cases hv, fun w j => s.add_cases hv⟩

/-- Takes the first of two items by `next`, and makes an iterator over the positions below the least
bound. -/
def walking : Config :=
  let pair : Expr := .apply (.object .tuple) [.int 1, .bool true]
  { control := .eval (.seq
      [.apply (.object .next) [.apply (.object .iter) [pair]],
        .apply (.object (.iterBound ⟨-0x8000000000000000, by decide, by decide⟩))
          [.apply (.object .typeOf) [.null]]])
    session := .ofSetup { sample := false } }

def walked : Config := walking.after 18

/-- In `walked` one item is still to come, none is below the least bound, and the least `HostInt` is out
of range as an index even when it is counted from the end. -/
theorem arithmetic_in_range_walked :
    let s := walked.session.host.store
    let least : HostInt := ⟨-0x80000000000000000000000000000000, by decide, by decide⟩
    walked.Reachable ∧ (s.iteratorAt 0).remaining = 1 ∧ (s.iteratorAt 1).remaining = 0 ∧
      ((s.iteratorAt 1).bound.saturatingSub 0).val = -0x8000000000000000 ∧
      s.itemAt #[.null] (.int least) "tuple" = .error ⟨.indexError, "tuple index out of range"⟩ := by
  intro s least
  have hreachable : walked.Reachable := (Reachable.start _ _).after 18
  obtain ⟨-, hitems, -, hiterators, -, -⟩ := arithmetic_in_range hreachable
  obtain ⟨-, -, -, hone⟩ := (hiterators 0).1 1 rfl
  obtain ⟨-, -, hexact, hnone⟩ := (hiterators 1).1 0 rfl
  have hpair : (s.iteratorAt 0).bound.val = 2 := rfl
  have hbound : (s.iteratorAt 1).bound.val = -0x8000000000000000 := rfl
  refine ⟨hreachable, ?_, ?_, ?_, ?_⟩
  · rw [hpair] at hone
    exact Int.ofNat.inj hone
  · rw [hbound] at hnone
    exact Int.ofNat.inj hnone
  · rw [hexact, hbound]
    rfl
  · obtain ⟨place, hplace, -, hrefused⟩ := hitems #[.null] "tuple" (.int least) 1 least rfl rfl
    -- Counted from the end of one item it is one more, which is still far below 0.
    have hval : place.val = least.val + 1 := by
      rw [if_pos (by decide)] at hplace
      exact HostInt.ofInt?_eq_some_iff.1 hplace
    refine hrefused fun hinside => ?_
    rw [hval] at hinside
    exact absurd hinside.1 (by decide)

end Config

end ObjectProtocol

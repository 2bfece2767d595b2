import Mathlib.Data.List.Nodup
import ObjectProtocol.Proofs.Arguments.Parsing
import ObjectProtocol.Proofs.Mappings.Keys
import ObjectProtocol.Record

/-!
# The renderings of a record

A record with distinct names says the same as a tuple and as a mapping: the mapping has the names as its
keys, in order, and the items of the tuple under them.  As a tuple with a format it says it once more, in
native integers where the format asks for integers, provided that every field is what its place expects;
if not, the first field from the left that is at fault is to blame.
-/

namespace ObjectProtocol

/-! ## The mapping -/

namespace Mapping

variable {m : Mapping} {names : List String}

theorem insert_of_new {same : Value → Value → Bool} {key : Value} (value : Value)
    (h : ∀ k ∈ m.keys, same k key = false) : m.insert same key value = ⟨m.entries.push (key, value)⟩ := by
  have hplace : m.place? same key = none := by
    simpa [place?, keys] using h
  unfold insert
  rw [hplace]

theorem getText?_of_nodup (hkeys : m.keys.toList.map (·.asText?) = names.map some) (hnames : names.Nodup)
    {i : Nat} (hi : i < names.length) : m.getText? names[i] = (m.entries.toList.map (·.2))[i]? := by
  have htexts : m.entries.toList.map (fun entry => entry.1.asText?) = names.map some := by
    rw [← hkeys, keys, Array.toList_map, List.map_map]
    rfl
  have hsize : m.entries.toList.length = names.length := by
    simpa using congrArg List.length htexts
  have htext (j : Nat) (hj : j < names.length) (hplace : j < m.entries.toList.length) :
      m.entries.toList[j].1.asText? = some names[j] := by
    have hat := congrArg (·[j]?) htexts
    simpa [hj, hsize] using hat
  have hplace : i < m.entries.toList.length := hsize ▸ hi
  have hfind : m.entries.toList.find? (fun entry => entry.1.asText? = some names[i])
      = some m.entries.toList[i] := by
    refine List.find?_eq_some_iff_getElem.2 ⟨by simpa using htext i hi hplace, i, hplace, rfl, ?_⟩
    intro j hj
    rw [htext j (Nat.lt_trans hj hi)]
    -- Another place has another name.
    simpa using fun hsame => absurd (hnames.getElem_inj_iff.1 hsame) (Nat.ne_of_lt hj)
  rw [getText?, ← Array.find?_toList, hfind, List.getElem?_map, List.getElem?_eq_getElem]

end Mapping

namespace Record

theorem toList_entries_buildEntries {fields : List (String × Value)} {m : Mapping} (s : Store)
    (hnames : (fields.map (·.1)).Nodup) (hnew : ∀ k ∈ m.keys, ∀ field ∈ fields, k.asText? ≠ some field.1) :
    (Sketch.buildEntries (fields.map fun (name, value) => (name, .given value)) m s).1.entries.toList
      = m.entries.toList ++ fields.mapIdx fun i field => (.str (s.nextId + i) field.1, field.2) := by
  induction fields generalizing m s with
  | nil => simp [Sketch.buildEntries]
  | cons field rest ih =>
    obtain ⟨name, value⟩ := field
    obtain ⟨hname, hrest⟩ := List.nodup_cons.1 hnames
    -- The name is not among the keys so far, so the entry goes to the end.
    have hinsert (t : Store) : m.insert t.equal (.str s.nextId name) value
        = ⟨m.entries.push (.str s.nextId name, value)⟩ :=
      Mapping.insert_of_new value fun k hk => by
        rw [t.equal_str, decide_eq_false_iff_not]
        exact hnew k hk _ List.mem_cons_self
    rw [List.map_cons, Sketch.buildEntries]
    dsimp only [Store.newText, Sketch.build]
    rw [hinsert, ih _ hrest, List.mapIdx_cons, Array.toList_push, List.append_assoc]
    · simp [Nat.add_right_comm, Nat.add_assoc]
    · intro k hk field hfield
      rw [Mapping.keys, Array.map_push, Array.mem_push] at hk
      -- Neither the keys before nor the one just added is a later name.
      rcases hk with hk | rfl
      · exact hnew k hk field (List.mem_cons_of_mem _ hfield)
      · rintro htext
        exact hname (List.mem_map.2 ⟨field, hfield, (Option.some.inj htext).symm⟩)

/-- What the mapping that `toDict` builds has in common with a row of values, under the names of the
record. -/
structure MapsTo (r : Record) (m : Mapping) (items : List Value) : Prop where
  size : m.size = r.size
  keys : m.keys.toList.map (·.asText?) = r.fields.map fun field => some field.1
  values : m.entries.toList.map (·.2) = items
  found : ∀ (i : Nat) (hi : i < r.fields.length), m.getText? r.fields[i].1 = items[i]?

/-- `toDict` makes one entry for each field. -/
theorem exists_build_toDict (r : Record) (hnames : (r.fields.map (·.1)).Nodup) (s : Store) :
    ∃ ref s', r.toDict.build s = (.dict ref, s') ∧ r.MapsTo (s'.dictAt ref) r.values := by
  obtain ⟨m, s', hbuilt⟩ : ∃ m s', Sketch.buildEntries
      (r.fields.map fun (name, value) => (name, .given value)) {} s = (m, s') := ⟨_, _, rfl⟩
  have hentries : m.entries.toList
      = r.fields.mapIdx fun i field => (Value.str (s.nextId + i) field.1, field.2) := by
    have hlist := toList_entries_buildEntries (m := {}) s hnames fun k hk => by simp [Mapping.keys] at hk
    rw [hbuilt] at hlist
    simpa using hlist
  -- The keys are fresh texts, so only their texts tell them apart.
  have hkeys : m.keys.toList.map (·.asText?) = (r.fields.map (·.1)).map some := by
    rw [Mapping.keys, Array.toList_map, hentries]
    apply List.ext_getElem?
    intro i
    simp [Function.comp_def, Value.asText?]
  have hvalues : m.entries.toList.map (·.2) = r.values := by
    rw [hentries]
    apply List.ext_getElem?
    intro i
    simp [Function.comp_def, values]
  have hat : (s'.newDict m).2.dictAt s'.dicts.size = m := by
    simp [Store.newDict, Store.dictAt, Heap.get?_push]
  refine ⟨s'.dicts.size, (s'.newDict m).2, ?_, ?_⟩
  · rw [toDict, Sketch.build, hbuilt]
    rfl
  · rw [hat]
    refine ⟨?_, by rw [hkeys, List.map_map]; rfl, hvalues, fun i hi => ?_⟩
    · rw [Mapping.size, ← Array.length_toList, hentries, List.length_mapIdx, size]
    · have hfound := Mapping.getText?_of_nodup hkeys hnames (i := i) (by simpa using hi)
      rw [hvalues] at hfound
      simpa using hfound

end Record

/-! ## The formatted tuple -/

def ArgSpec.ofFormat (format : List Param) : ArgSpec :=
  { params := format, min := format.length, max := some format.length }

/-- What an accepted value becomes: a native integer with its value at `Param.int`, and itself elsewhere.
-/
def Param.Renders (p : Param) (v w : Value) : Prop :=
  (p = .int → ∃ n : NativeInt, w = .ofNative n ∧ v.asInt?.map (·.val) = some n.val) ∧ (p ≠ .int → w = v)

theorem Param.Renders.equalWith {p : Param} {v w : Value} (h : p.Renders v w) (hv : v.isFloatFree = true)
    (lists dicts : Ref → Ref → Bool) :
    w.equalWith lists dicts v = true ∧ v.equalWith lists dicts w = true := by
  by_cases hp : p = .int
  · obtain ⟨n, rfl, hn⟩ := h.1 hp
    obtain ⟨i, hi, hval⟩ := Option.map_eq_some_iff.1 hn
    obtain rfl : i = n.toHost := HostInt.ext hval
    have hkey : v.key? = some (.number n.toHost) := Value.key?_of_asInt? hi
    exact ⟨(Value.equalWith_iff _ v rfl hv).2 hkey, (Value.equalWith_iff v _ hkey rfl).2 rfl⟩
  · obtain rfl := h.2 hp
    exact ⟨w.equalWith_self hv, w.equalWith_self hv⟩

namespace Record

variable {s : Store} {v : Value} {p : Param} {format : List Param}

theorem convert_of_accepts (s : Store) (name : String) (h : p.Accepts v) :
    ∃ w, convert s name v p = .ok w ∧ p.Renders v w := by
  unfold convert
  cases p with
  | any => exact ⟨v, rfl, fun hp => by contradiction, fun _ => rfl⟩
  | str => exact ⟨v, if_pos (v.asText?_isSome_iff.2 h), fun hp => by contradiction, fun _ => rfl⟩
  | int =>
    obtain ⟨n, hn⟩ := (Param.accepts_int_iff s).1 h
    refine ⟨.ofNative n, ?_, fun _ => ⟨n, rfl, Store.val_of_toNative hn⟩, fun hp => absurd rfl hp⟩
    dsimp only
    rw [hn]
    rfl

theorem convert_of_not_accepts (s : Store) (name : String) (h : ¬ p.Accepts v) :
    ∃ f, convert s name v p = .error f ∧
      f.code = if p = .int ∧ v.isInt = true then .outOfRange else .typeMismatch := by
  unfold convert
  cases p with
  | any => exact absurd trivial h
  | str => exact ⟨_, if_neg fun htext => h (v.asText?_isSome_iff.1 htext), rfl⟩
  | int =>
    -- An integer is rejected only for its range, anything else for its kind.
    cases hn : s.toNative v with
    | ok n => exact absurd ((Param.accepts_int_iff s).2 ⟨n, hn⟩) h
    | error f =>
      refine ⟨f, rfl, ?_⟩
      by_cases hint : v.isInt = true
      · simp [hint, Store.code_of_toNative hint hn]
      · rw [if_neg fun hboth => hint hboth.2]
        have hnone : v.asInt? = none := Option.not_isSome_iff_eq_none.1 hint
        unfold Store.toNative at hn
        rw [hnone] at hn
        cases hn
        rfl

/-- Each value is accepted at its place, where it becomes what `Param.Renders` says. -/
def Rendered (format : List Param) (vs ws : List Value) : Prop :=
  ws.length = vs.length ∧ ∀ (i : Nat) (p : Param) (v : Value), format[i]? = some p → vs[i]? = some v →
    p.Accepts v ∧ ∃ w, ws[i]? = some w ∧ p.Renders v w

theorem convertAll_cases {fields : List (String × Value)} (h : format.length = fields.length) :
    (∃ ws, convertAll s fields format = .ok ws ∧ Rendered format (fields.map (·.2)) ws) ∨
      ∃ f, convertAll s fields format = .error f ∧
        (ArgSpec.ofFormat format).BlamesFirst (fields.map (·.2)) f := by
  induction fields generalizing format with
  | nil =>
    obtain rfl := List.length_eq_zero_iff.1 h
    exact Or.inl ⟨[], by rw [convertAll]; simp, rfl, fun i p v hp => by contradiction⟩
  | cons field rest ih =>
    obtain ⟨name, v⟩ := field
    cases format with
    | nil => contradiction
    | cons p format =>
      rw [convertAll]
      by_cases haccepts : p.Accepts v
      · obtain ⟨w, hw, hrenders⟩ := convert_of_accepts s name haccepts
        rw [hw]
        dsimp only
        rcases ih (Nat.succ.inj h) with ⟨ws, hws, hlength, hall⟩ | ⟨f, hf, hblames⟩
        · rw [hws]
          refine Or.inl ⟨w :: ws, rfl, congrArg (· + 1) hlength, fun i q u hq hu => ?_⟩
          cases i with
          | zero =>
            cases hq
            cases hu
            exact ⟨haccepts, w, rfl, hrenders⟩
          | succ i => exact hall i q u hq hu
        · -- The field to blame is one place further on.
          obtain ⟨i, q, u, hq, hu, hnot, hbefore, hcode⟩ := hblames
          rw [hf]
          refine Or.inr ⟨f, rfl, i + 1, q, u, hq, hu, hnot, fun j q' u' hj hq' hu' => ?_, hcode⟩
          cases j with
          | zero =>
            cases hq'
            cases hu'
            exact haccepts
          | succ j => exact hbefore j q' u' (Nat.lt_of_succ_lt_succ hj) hq' hu'
      · -- The first field is to blame, with nothing before it.
        obtain ⟨f, hf, hcode⟩ := convert_of_not_accepts s name haccepts
        rw [hf]
        exact Or.inr ⟨f, rfl, 0, p, v, rfl, rfl, haccepts, fun j q w hj => by contradiction, hcode⟩

theorem Rendered.equalAllWith {vs ws : List Value} (h : Rendered format vs ws)
    (hlength : format.length = vs.length) (hfree : ∀ v ∈ vs, v.isFloatFree = true)
    (lists dicts : Ref → Ref → Bool) :
    Value.equalAllWith lists dicts ws vs = true ∧ Value.equalAllWith lists dicts vs ws = true := by
  have hplace (i : Nat) (v w : Value) (hv : vs[i]? = some v) (hw : ws[i]? = some w) :
      w.equalWith lists dicts v = true ∧ v.equalWith lists dicts w = true := by
    have hi : i < format.length := hlength ▸ (List.getElem?_eq_some_iff.1 hv).1
    obtain ⟨-, w', hw', hrenders⟩ := h.2 i format[i] v (List.getElem?_eq_getElem hi) hv
    obtain rfl := Option.some.inj (hw.symm.trans hw')
    exact hrenders.equalWith (hfree v (List.mem_of_getElem? hv)) lists dicts
  rw [Value.equalAllWith_iff_getElem?, Value.equalAllWith_iff_getElem?]
  exact ⟨⟨h.1, fun i w v hw hv => (hplace i v w hv hw).1⟩,
    ⟨h.1.symm, fun i v w hv hw => (hplace i v w hv hw).2⟩⟩

/-! ## Main result -/

/-- What `typedTuple` gives beside the plain tuple: native integers at the integer places, the same values
elsewhere, and so an equal tuple when no float is in the way. -/
structure FormattedAs (r : Record) (format : List Param) (id : Identity) (items : Array Value)
    (id' : Identity) (plain : Array Value) : Prop where
  size : items.size = plain.size
  native : ∀ i : Nat, format[i]? = some .int → ∃ (n : NativeInt) (v : Value),
    items[i]? = some (.ofNative n) ∧ plain[i]? = some v ∧ v.asInt?.map (·.val) = some n.val
  kept : ∀ i : Nat, format[i]? ≠ some .int → items[i]? = plain[i]?
  equal : (∀ v ∈ r.values, v.isFloatFree = true) → ∀ s : Store,
    s.equal (.tuple id items) (.tuple id' plain) = true ∧
      s.equal (.tuple id' plain) (.tuple id items) = true

theorem Rendered.formattedAs {r : Record} {ws : List Value} (h : Rendered format r.values ws)
    (hlength : format.length = r.size) (id id' : Identity) :
    r.FormattedAs format id ws.toArray id' r.values.toArray := by
  have hvalues : format.length = r.values.length := by rw [hlength, values, List.length_map, size]
  refine ⟨by simpa using h.1, fun i hi => ?_, fun i hi => ?_, fun hfree s => ?_⟩
  · have hlt : i < r.values.length := hvalues ▸ (List.getElem?_eq_some_iff.1 hi).1
    obtain ⟨-, w, hw, hrenders⟩ := h.2 i .int _ hi (List.getElem?_eq_getElem hlt)
    obtain ⟨n, rfl, hn⟩ := hrenders.1 rfl
    exact ⟨n, _, by simpa using hw, by simp [hlt], hn⟩
  · rw [List.getElem?_toArray, List.getElem?_toArray]
    cases hv : r.values[i]? with
    | none => rw [List.getElem?_eq_none_iff, h.1]; exact List.getElem?_eq_none_iff.1 hv
    | some v =>
      have hlt : i < format.length := hvalues ▸ (List.getElem?_eq_some_iff.1 hv).1
      have hp := List.getElem?_eq_getElem hlt
      obtain ⟨-, w, hw, hrenders⟩ := h.2 i _ v hp hv
      obtain rfl := hrenders.2 fun hint => hi (hint ▸ hp)
      exact hw
  · -- Equality with the untyped tuple is decided field by field, floats left out.
    obtain ⟨lists, dicts, hequal⟩ := s.exists_equal_eq
    obtain ⟨hto, hfrom⟩ := h.equalAllWith hvalues hfree lists dicts
    simp [hequal, Value.equalWith, Value.equalRowWith_eq, hto, hfrom, h.1]

/-- What `typedTuple` makes of the record: a tuple if every place accepts its field, and otherwise a
failure that blames the first that does not. -/
structure Formats (r : Record) (format : List Param) (s : Store) : Prop where
  accepted : (∃ typed, r.typedTuple s format = .ok typed) ↔ (ArgSpec.ofFormat format).Fits r.values
  formatted : ∀ typed, r.typedTuple s format = .ok typed → ∀ t u : Store, ∃ id items id' plain,
    (typed.build t).1 = .tuple id items ∧ (r.toTuple.build u).1 = .tuple id' plain ∧
      r.FormattedAs format id items id' plain
  blamed : ∀ f, r.typedTuple s format = .error f → (ArgSpec.ofFormat format).BlamesFirst r.values f

theorem build_toTuple (r : Record) (s : Store) : (r.toTuple.build s).1 = .tuple s.nextId r.values.toArray := by
  rw [toTuple, Sketch.build]
  rfl

theorem typedTuple_cases (r : Record) (hlength : format.length = r.size) (s : Store) :
    (∃ ws, r.typedTuple s format = .ok (.tupleOf ws.toArray) ∧ Rendered format r.values ws) ∨
      ∃ f, r.typedTuple s format = .error f ∧ (ArgSpec.ofFormat format).BlamesFirst r.values f := by
  have htyped : r.typedTuple s format
      = (convertAll s r.fields format).map fun ws => .tupleOf ws.toArray := by
    rw [typedTuple, typedValues, if_pos hlength]
  rw [htyped]
  rcases convertAll_cases (s := s) hlength with ⟨ws, hws, hrendered⟩ | ⟨f, hf, hblames⟩
  · exact Or.inl ⟨ws, by rw [hws]; rfl, hrendered⟩
  · exact Or.inr ⟨f, by rw [hf]; rfl, hblames⟩

theorem formats (r : Record) (hlength : format.length = r.size) (s : Store) : r.Formats format s := by
  rcases r.typedTuple_cases hlength s with ⟨ws, hws, hrendered⟩ | ⟨f, hf, hblames⟩
  · have hfits : (ArgSpec.ofFormat format).Fits r.values :=
      fun i p v hp hv => (hrendered.2 i p v hp hv).1
    refine ⟨⟨fun _ => hfits, fun _ => ⟨_, hws⟩⟩, fun typed htyped t u => ?_, fun f hf => ?_⟩
    · obtain rfl := Except.ok.inj (hws.symm.trans htyped)
      exact ⟨t.nextId, ws.toArray, u.nextId, r.values.toArray, by rw [Sketch.build]; rfl, r.build_toTuple u,
        hrendered.formattedAs hlength _ _⟩
    · rw [hws] at hf
      contradiction
  · -- Both directions go through the field that is to blame.
    have hunfit : ¬ (ArgSpec.ofFormat format).Fits r.values := by
      obtain ⟨i, p, v, hp, hv, hnot, -⟩ := hblames
      exact fun hfits => hnot (hfits i p v hp hv)
    refine ⟨⟨fun ⟨typed, htyped⟩ => ?_, fun hfits => absurd hfits hunfit⟩, fun typed htyped => ?_,
      fun g hg => ?_⟩
    · rw [hf] at htyped
      contradiction
    · rw [hf] at htyped
      contradiction
    · obtain rfl := Except.error.inj (hf.symm.trans hg)
      exact hblames

theorem typedTuple_broken_iff (r : Record) (format : List Param) (s : Store) :
    (∃ f, r.typedTuple s format = .error f ∧ f.code = .invariantBroken) ↔ format.length ≠ r.size := by
  constructor
  · rintro ⟨f, hf, hbroken⟩ hlength
    obtain ⟨i, p, v, -, -, -, -, hcode⟩ := (r.formats hlength s).blamed f hf
    rw [hcode] at hbroken
    split at hbroken <;> contradiction
  · intro hlength
    exact ⟨_, by rw [typedTuple, typedValues, if_neg hlength]; rfl, rfl⟩

/-- For every `Record` with distinct names, `toDict` has one entry for each field, in order, with the
items of `toTuple` under the names. A format of another length is `invariantBroken`; one of the same
length is met iff each field is accepted at its place, and then `typedTuple` is the plain tuple with
native integers at the integer places. Otherwise the leftmost field that is not accepted is to blame, for
its range or for its type. -/
theorem renderings_agree (r : Record) :
    ((r.fields.map (·.1)).Nodup → ∀ s t : Store, ∃ ref s' id items,
      r.toDict.build s = (.dict ref, s') ∧ (r.toTuple.build t).1 = .tuple id items ∧
        r.MapsTo (s'.dictAt ref) items.toList) ∧
    ∀ (format : List Param) (s : Store),
      ((∃ f, r.typedTuple s format = .error f ∧ f.code = .invariantBroken) ↔ format.length ≠ r.size) ∧
      (format.length = r.size → r.Formats format s) := by
  refine ⟨fun hnames s t => ?_, fun format s => ⟨r.typedTuple_broken_iff format s, fun h => r.formats h s⟩⟩
  obtain ⟨ref, s', hbuild, hmaps⟩ := r.exists_build_toDict hnames s
  exact ⟨ref, s', t.nextId, r.values.toArray, hbuild, r.build_toTuple t, hmaps⟩

def mixed : Record := ⟨[("first", .bool true), ("second", .int ArgSpec.tooLarge), ("third", .str 0 "x")]⟩

/-- Of the fields of `mixed`, the number out of range comes before the text, and is to blame. -/
theorem renderings_agree_mixed :
    (mixed.fields.map (·.1)).Nodup ∧ [Param.int, .int, .int].length = mixed.size ∧
      (∃ ref s', mixed.toDict.build {} = (.dict ref, s') ∧
        (s'.dictAt ref).getText? "third" = some (.str 0 "x")) ∧
      ∃ f, mixed.typedTuple {} [.int, .int, .int] = .error f ∧
        (ArgSpec.ofFormat [.int, .int, .int]).BlamesFirst mixed.values f ∧ f.code = .outOfRange := by
  have hnames : (mixed.fields.map (·.1)).Nodup := by decide
  obtain ⟨hmapping, hformats⟩ := renderings_agree mixed
  obtain ⟨ref, s', id, items, hbuild, htuple, hmaps⟩ := hmapping hnames {} {}
  rw [mixed.build_toTuple, Value.tuple.injEq] at htuple
  have hthird := hmaps.found 2 (by decide)
  rw [← htuple.2] at hthird
  exact ⟨hnames, rfl, ⟨ref, s', hbuild, hthird⟩, _, rfl,
    ((hformats [.int, .int, .int] {}).2 rfl).blamed _ rfl, rfl⟩

end Record

end ObjectProtocol

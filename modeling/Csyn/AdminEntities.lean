import Csyn.Graph
import Csyn.Lib.Delimited
import Csyn.Lib.Fallible

set_option autoImplicit false

/- The keys that declare an entity in the admin space, against `parse_admin_entities`. -/
namespace Csyn

/-- `@/zid/mode/kind/expr/kind` -/
def AdminEntity.key (entity : AdminEntity) : Str :=
  str "@/" ++ entity.zid ++ str "/" ++ entity.mode ++ str "/" ++ entity.kind ++ str "/" ++
    entity.expr ++ str "/" ++ entity.kind

/-- The three fields before the expression are one segment each. -/
structure AdminEntity.WellFormed (entity : AdminEntity) : Prop where
  zid : slash ∉ entity.zid
  mode : slash ∉ entity.mode
  kind : slash ∉ entity.kind
  expr : entity.expr ≠ []

/-- The key is of the form `@/zid/mode/kind/expr/kind`. -/
def IsAdminKey (key : Str) : Prop := ∃ entity : AdminEntity, entity.WellFormed ∧ entity.key = key

theorem AdminEntity.key_eq (entity : AdminEntity) :
    entity.key = str "@" ++ slash :: (entity.zid ++ slash :: (entity.mode ++ slash ::
      (entity.kind ++ slash :: (entity.expr ++ slash :: entity.kind)))) := by
  have opening : str "@/" = str "@" ++ [slash] := rfl
  have delimiter : str "/" = [slash] := rfl
  simp [AdminEntity.key, opening, delimiter]

/-- The segments of a key: five around those of the expression. -/
theorem AdminEntity.WellFormed.splitOn_key {entity : AdminEntity} (formed : entity.WellFormed) :
    entity.key.splitOn slash = str "@" :: entity.zid :: entity.mode :: entity.kind ::
      (entity.expr.splitOn slash ++ [entity.kind]) := by
  have sign : slash ∉ str "@" := by decide
  rw [AdminEntity.key_eq, List.splitOn_append_cons_self_of_not_mem sign,
    List.splitOn_append_cons_self_of_not_mem formed.zid,
    List.splitOn_append_cons_self_of_not_mem formed.mode,
    List.splitOn_append_cons_self_of_not_mem formed.kind, List.splitOn_append_cons_self,
    List.splitOn_eq_singleton formed.kind]

/-- Six segments are four, then at least one, then the last. -/
theorem six_segments {parts : List Str} (enough : 6 ≤ parts.length) :
    ∃ first zid mode kind middle last, parts = first :: zid :: mode :: kind :: (middle ++ [last]) ∧
      middle ≠ [] := by
  match parts, enough with
  | first :: zid :: mode :: kind :: rest, enough =>
      have remaining : 2 ≤ rest.length := by
        simp only [List.length_cons] at enough
        omega
      have some_rest : rest ≠ [] := by
        intro empty
        simp [empty] at remaining
      refine ⟨first, zid, mode, kind, rest.dropLast, rest.getLast some_rest, ?_, ?_⟩
      · rw [List.dropLast_concat_getLast]
      · apply List.ne_nil_of_length_pos
        rw [List.length_dropLast]
        omega

/-- What the parser makes of the segments. -/
theorem parseAdminEntity_of_splitOn {key first zid mode kind last : Str} {middle : List Str}
    (segments : key.splitOn slash = first :: zid :: mode :: kind :: (middle ++ [last]))
    (some_middle : middle ≠ []) :
    parseAdminEntity key =
      if first ≠ str "@" ∨ last ≠ kind ∨ [slash].intercalate middle = [] then none
      else some ⟨zid, mode, kind, [slash].intercalate middle⟩ := by
  have regrouped : first :: zid :: mode :: kind :: (middle ++ [last]) =
      (first :: zid :: mode :: kind :: middle) ++ [last] := rfl
  have ending : (key.splitOn slash).getLast? = some last := by
    rw [segments, regrouped, List.getLast?_concat]
  have counted : (key.splitOn slash).length = middle.length + 5 := by
    rw [segments]
    simp
  have sliced : ((key.splitOn slash).take (middle.length + 5 - 1)).drop 4 = middle := by
    rw [segments]
    simp
  have enough : ¬ middle.length + 5 < 6 := by
    have positive := List.length_pos_of_ne_nil some_middle
    omega
  unfold parseAdminEntity
  dsimp only
  rw [ending, counted, sliced, segments]
  simp only [enough, false_or, List.head?_cons, Option.some.injEq, List.getElem?_cons_succ,
    List.getElem?_cons_zero, Option.bind_some, ne_eq]
  by_cases opened : first = str "@"
  · by_cases closed : last = kind
    · simp [opened, closed]
    · simp [opened, closed]
  · simp [opened]

/-- A key yields an entity exactly when it is the key of a well-formed one, and then that one. -/
theorem parseAdminEntity_eq_some {key : Str} {entity : AdminEntity} :
    parseAdminEntity key = some entity ↔ entity.WellFormed ∧ entity.key = key := by
  constructor
  · intro parsed
    have enough : 6 ≤ (key.splitOn slash).length := by
      by_contra short
      have refused : parseAdminEntity key = none := by
        unfold parseAdminEntity
        exact if_pos (Or.inl (Nat.not_le.mp short))
      rw [refused] at parsed
      cases parsed
    obtain ⟨first, zid, mode, kind, middle, last, segments, some_middle⟩ := six_segments enough
    rw [parseAdminEntity_of_splitOn segments some_middle] at parsed
    split at parsed
    · cases parsed
    · rename_i accepted
      simp only [not_or, Decidable.not_not] at accepted
      obtain ⟨rfl, rfl, some_expr⟩ := accepted
      cases parsed
      have clean (piece : Str) (member : piece ∈ key.splitOn slash) : slash ∉ piece :=
        Delimited.not_mem_of_mem_splitOn member
      rw [segments] at clean
      refine ⟨⟨clean zid (by simp), clean mode (by simp), clean last (by simp), some_expr⟩, ?_⟩
      have joined : [slash].intercalate (key.splitOn slash) = key := List.intercalate_splitOn slash
      rw [← joined, segments, AdminEntity.key_eq]
      simp [List.intercalate_cons_of_ne_nil, Delimited.intercalate_concat slash some_middle]
  · rintro ⟨formed, rfl⟩
    rw [parseAdminEntity_of_splitOn formed.splitOn_key (List.splitOn_ne_nil slash entity.expr),
      List.intercalate_splitOn, if_neg]
    simp [formed.expr]

theorem parseAdminEntity_isSome (key : Str) : (parseAdminEntity key).isSome ↔ IsAdminKey key := by
  rw [Option.isSome_iff_exists]
  exact exists_congr fun entity => parseAdminEntity_eq_some

instance (key : Str) : Decidable (IsAdminKey key) :=
  decidable_of_iff _ (parseAdminEntity_isSome key)

theorem mem_parseAdminEntities {entries : Std.TreeMap Str Str} {entity : AdminEntity} :
    entity ∈ parseAdminEntities entries ↔ entity.WellFormed ∧ entity.key ∈ entries := by
  rw [parseAdminEntities, List.mem_filterMap]
  constructor
  · rintro ⟨key, member, parsed⟩
    obtain ⟨formed, rfl⟩ := parseAdminEntity_eq_some.mp parsed
    exact ⟨formed, Std.TreeMap.mem_keys.mp member⟩
  · rintro ⟨formed, member⟩
    exact ⟨entity.key, Std.TreeMap.mem_keys.mpr member, parseAdminEntity_eq_some.mpr ⟨formed, rfl⟩⟩

/-- The entities render to the keys of their form, in the order of the map. -/
theorem parseAdminEntities_map_key (entries : Std.TreeMap Str Str) :
    (parseAdminEntities entries).map AdminEntity.key =
      entries.keys.filter fun key => decide (IsAdminKey key) := by
  rw [parseAdminEntities,
    Fallible.map_filterMap_of_inverse fun _ _ parsed => (parseAdminEntity_eq_some.mp parsed).2]
  apply List.filter_congr
  intro key _
  rw [Bool.eq_iff_iff, decide_eq_true_iff]
  exact parseAdminEntity_isSome key

theorem keys_single (key payload : Str) :
    ((∅ : Std.TreeMap Str Str).insert key payload).keys = [key] := by
  have one : ((∅ : Std.TreeMap Str Str).insert key payload).keys.length = 1 := by
    rw [Std.TreeMap.length_keys, Std.TreeMap.size_insert, Std.TreeMap.size_emptyc,
      Std.TreeMap.contains_emptyc]
    rfl
  obtain ⟨only, keys⟩ := List.length_eq_one_iff.mp one
  have member : key ∈ ((∅ : Std.TreeMap Str Str).insert key payload).keys :=
    Std.TreeMap.mem_keys.mpr Std.TreeMap.mem_insert_self
  rw [keys, List.mem_singleton] at member
  rw [keys, member]

/-- The key of a well-formed entity alone in the map yields that entity and nothing else; any key
yields an entity if and only if it is of the form, and the entity renders to the key; and any map
yields one entity for each such key, in the order of the keys. -/
theorem parse_admin_entities_round_trip :
    (∀ entity : AdminEntity, entity.WellFormed → ∀ payload,
      parseAdminEntities ((∅ : Std.TreeMap Str Str).insert entity.key payload) = [entity]) ∧
    (∀ key payload,
      (parseAdminEntities ((∅ : Std.TreeMap Str Str).insert key payload) ≠ [] ↔ IsAdminKey key) ∧
      ∀ entity ∈ parseAdminEntities ((∅ : Std.TreeMap Str Str).insert key payload),
        entity.WellFormed ∧ entity.key = key) ∧
    ∀ entries : Std.TreeMap Str Str,
      (∀ entity ∈ parseAdminEntities entries, entity.WellFormed) ∧
      (parseAdminEntities entries).map AdminEntity.key =
        entries.keys.filter (fun key => decide (IsAdminKey key)) ∧
      (parseAdminEntities entries).Pairwise fun earlier later =>
        compare earlier.key later.key = .lt := by
  refine ⟨?_, ?_, ?_⟩
  · intro entity formed payload
    rw [parseAdminEntities, keys_single, List.filterMap_cons_some
      (parseAdminEntity_eq_some.mpr ⟨formed, rfl⟩), List.filterMap_nil]
  · intro key payload
    rw [parseAdminEntities, keys_single, ← parseAdminEntity_isSome]
    cases parsed : parseAdminEntity key with
    | none => simp [parsed]
    | some entity => simp [parsed, parseAdminEntity_eq_some.mp parsed]
  · intro entries
    refine ⟨fun entity member => (mem_parseAdminEntities.mp member).1,
      parseAdminEntities_map_key entries, ?_⟩
    have ordered := (Std.TreeMap.ordered_keys (t := entries)).filter
      fun key => decide (IsAdminKey key)
    rw [← parseAdminEntities_map_key, List.pairwise_map] at ordered
    exact ordered

/-- A subscriber of a router to a key of two segments. -/
theorem parse_admin_entities_subscriber :
    parseAdminEntities ((∅ : Std.TreeMap Str Str).insert
      (AdminEntity.key ⟨str "abc", str "router", str "subscriber", str "synapse/manual_control"⟩)
      (str "\x7b\x7d")) =
      [⟨str "abc", str "router", str "subscriber", str "synapse/manual_control"⟩] :=
  parse_admin_entities_round_trip.1 _
    ⟨by decide, by decide, by decide, by decide⟩ _

end Csyn

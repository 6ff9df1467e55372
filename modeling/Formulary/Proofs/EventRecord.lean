import Formulary.Journal
import Formulary.Proofs.StrictContext
import Formulary.Proofs.Tables
/-!
# The record of an event

The line of an event reads back as its record, and a filter finds in the record what it would find in
the event itself.
-/

set_option autoImplicit false
namespace Formulary

namespace Datum

theorem field?_of_ne {k : Datum} {name : String} (h : k ≠ .text name) (v : Datum)
    (es : List (Datum × Datum)) : field? name ((k, v) :: es) = field? name es := by
  cases k with
  | text s =>
    have hs : ¬ s = name := fun hs => h (congrArg text hs)
    rw [field?, if_neg hs]
  | _ => rfl

theorem field?_cons_self (name : String) (v : Datum) (es : List (Datum × Datum)) :
    field? name ((.text name, v) :: es) = some v := by
  rw [field?, if_pos rfl]

theorem field?_eq_some_iff {es : List (Datum × Datum)} (h : (es.map Prod.fst).Nodup) {name : String}
    {v : Datum} : field? name es = some v ↔ (.text name, v) ∈ es := by
  induction es with
  | nil => exact ⟨fun hv => (Option.some_ne_none v hv.symm).elim, fun hv => absurd hv List.not_mem_nil⟩
  | cons e es ih =>
    rw [List.map_cons, List.nodup_cons] at h
    obtain ⟨k, w⟩ := e
    by_cases hk : k = .text name
    · subst hk
      have hnew : (.text name, v) ∉ es := fun hmem => h.1 (List.mem_map.2 ⟨_, hmem, rfl⟩)
      rw [field?_cons_self, List.mem_cons, Prod.mk.injEq, Option.some.injEq]
      exact ⟨fun hv => .inl ⟨rfl, hv.symm⟩, fun hv => hv.elim (fun hv => hv.2.symm) fun hv => absurd hv hnew⟩
    · have hne : ¬ (.text name, v) = (k, w) := fun heq => hk (congrArg Prod.fst heq).symm
      rw [field?_of_ne hk, ih h.2, List.mem_cons, or_iff_right hne]

theorem field?_perm {es fs : List (Datum × Datum)} (h : es.Perm fs) (hn : (es.map Prod.fst).Nodup)
    (name : String) : field? name es = field? name fs := by
  have hn' : (fs.map Prod.fst).Nodup := (h.map Prod.fst).nodup_iff.1 hn
  ext v
  rw [field?_eq_some_iff hn, field?_eq_some_iff hn', h.mem_iff]

theorem field?_map (f : Datum → Datum) (name : String) (es : List (Datum × Datum)) :
    field? name (es.map fun e => (e.1, f e.2)) = (field? name es).map f := by
  induction es with
  | nil => rfl
  | cons e es ih =>
    obtain ⟨k, v⟩ := e
    rw [List.map_cons]
    by_cases hk : k = .text name
    · subst hk
      rw [field?_cons_self, field?_cons_self]
      rfl
    · rw [field?_of_ne hk, field?_of_ne hk, ih]

theorem field?_fields (name : String) (fields : List (String × Datum)) :
    field? name (fields.map fun f => (.text f.1, f.2)) = fields.lookup name := by
  induction fields with
  | nil => rfl
  | cons f fs ih =>
    obtain ⟨k, v⟩ := f
    rw [List.map_cons]
    by_cases hk : k = name
    · subst hk
      rw [field?_cons_self, List.lookup_cons_self]
    · have hne : (name == k) = false := beq_eq_false_iff_ne.2 (Ne.symm hk)
      have htext : (Datum.text k) ≠ .text name := fun h => hk (Datum.text.inj h)
      rw [field?_of_ne htext, ih, List.lookup_cons, hne]

theorem nodup_keys_fields {fields : List (String × Datum)} (hn : (fields.map Prod.fst).Nodup) :
    ((fields.map fun f => (text f.1, f.2)).map Prod.fst).Nodup := by
  have hkeys : (fields.map fun f => (text f.1, f.2)).map Prod.fst = (fields.map Prod.fst).map text := by
    rw [List.map_map, List.map_map]
    rfl
  rw [hkeys]
  exact hn.map fun _ _ heq => text.inj heq

theorem legible_ofFields {fields : List (String × Datum)} (hn : (fields.map Prod.fst).Nodup)
    (h : ∀ f ∈ fields, f.2.Legible) : (ofFields fields).Legible := by
  refine .map ?_ (nodup_keys_fields hn) ?_
  · intro e he
    obtain ⟨f, -, rfl⟩ := List.mem_map.1 he
    exact ⟨f.1, rfl⟩
  · intro e he
    obtain ⟨f, hf, rfl⟩ := List.mem_map.1 he
    exact h f hf

theorem isShowable_of_legible {d : Datum} (h : d.Legible) : d.isShowable = true := by
  induction h with
  | int h => exact isShowable_int.2 h
  | list _ ih =>
    rw [isShowable, areShowable_eq]
    exact List.all_eq_true.2 ih
  | map keys _ _ ih =>
    rw [isShowable, areShowableEntries_eq]
    refine List.all_eq_true.2 fun e he => Bool.and_eq_true_iff.2 ⟨?_, ih e he⟩
    obtain ⟨k, hk⟩ := keys e he
    rw [hk]
    rfl
  | _ => rfl

end Datum

namespace Json

theorem itemsError?_eq_none {ds : List Datum} :
    itemsError? ds = none ↔ ∀ d ∈ ds, dumpError? d = none := by
  induction ds with
  | nil => exact iff_of_true rfl (List.forall_mem_nil _)
  | cons d ds ih => rw [itemsError?, Option.or_eq_none_iff, ih, List.forall_mem_cons]

theorem dumpError?_ofFields {fields : List (String × Datum)} :
    dumpError? (.ofFields fields) = none ↔ ∀ d ∈ fields.map Prod.snd, dumpError? d = none := by
  change entriesError? (fields.map fun f => (.text f.1, f.2)) = none ↔ _
  induction fields with
  | nil => exact iff_of_true rfl (List.forall_mem_nil _)
  | cons f fs ih =>
    rw [List.map_cons, entriesError?, Option.or_eq_none_iff, Option.or_eq_none_iff, ih, List.map_cons,
      List.forall_mem_cons]
    exact and_iff_right rfl

theorem field?_normal {es : List (Datum × Datum)} (h : (es.map Prod.fst).Nodup) (name : String) :
    Datum.field? name (sortEntries (normalEntries es)) = (Datum.field? name es).map normal := by
  have hkeys : ((es.map fun e => (e.1, normal e.2)).map Prod.fst).Nodup := by
    rw [List.map_map]
    exact h
  have hperm : (sortEntries (es.map fun e => (e.1, normal e.2))).Perm _ := List.mergeSort_perm _ _
  rw [normalEntries_eq, Datum.field?_perm hperm ((hperm.map Prod.fst).nodup_iff.2 hkeys),
    Datum.field?_map]

end Json

namespace Event

/-- A value of a context as the record of the event gives it back. -/
def recorded (d : Datum) : Datum := Json.normal (Context.strict d)

/-- Events that have a line, which can be read back. -/
structure Legible (e : Event) : Prop where
  version : e.schemaVersion.natAbs < tenTo Numeral.maxDigits
  context : ∀ v ∈ e.context.values, (Context.strict v).Legible
  converts : ∀ v ∈ e.context.values, Json.dumpError? v = none

/-- The record of an event as it is read back. -/
def written (e : Event) : Record :=
  match Json.normal e.record with
  | .map r => r
  | _ => []

/-- Whether an event is wanted. -/
def isWanted (f : Filter) (e : Event) : Bool :=
  Filter.wants f.level (some (.text e.level.name)) && Filter.wants f.kind (some (.text e.kind.name)) &&
    Filter.wants f.errorCode (e.errorCode.map .text) &&
    Filter.wants f.formula ((e.context.get? "formula").map recorded)

theorem normal_record (e : Event) : Json.normal e.record = .map e.written := rfl

theorem strict_context (e : Event) : Context.strict (.ofFields e.context.entries) =
    .ofFields (e.context.entries.map fun f => (f.1, Context.strict f.2)) :=
  Context.strict_ofFields e.context.nodup

theorem nodup_context (e : Event) :
    ((e.context.entries.map fun f => (f.1, Context.strict f.2)).map Prod.fst).Nodup := by
  rw [List.map_map]
  exact e.context.nodup

theorem legible_context {e : Event} (h : e.Legible) :
    (Context.strict (.ofFields e.context.entries)).Legible := by
  rw [strict_context]
  refine Datum.legible_ofFields (nodup_context e) ?_
  intro f hf
  obtain ⟨g, hg, rfl⟩ := List.mem_map.1 hf
  exact h.context g.2 (List.mem_map_of_mem hg)

theorem nodup_fieldNames : ["schema_version", "ts", "level", "event_type", "message", "error_code",
    "context"].Nodup := by decide

theorem legible_record {e : Event} (h : e.Legible) : e.record.Legible := by
  refine Datum.legible_ofFields nodup_fieldNames ?_
  simp only [List.forall_mem_cons]
  refine ⟨.int h.version, .text _, .text _, .text _, .text _, ?_, legible_context h,
    List.forall_mem_nil _⟩
  cases e.errorCode with
  | none => exact .null
  | some s => exact .text s

theorem legible_of_isShowable {e : Event} (hconverts : ∀ v ∈ e.context.values, Json.dumpError? v = none)
    (h : e.record.isShowable = true) : e.Legible := by
  have hfields := Datum.isShowable_of_mem_map h
  have hversion := (hfields (.text "schema_version", .int e.schemaVersion) List.mem_cons_self).2
  refine ⟨Datum.isShowable_int.1 hversion, fun v hv => ?_, hconverts⟩
  have hcontext := (hfields (.text "context", Context.strict (.ofFields e.context.entries))
    (by simp)).2
  rw [strict_context] at hcontext
  obtain ⟨f, hf, rfl⟩ := List.mem_map.1 hv
  refine Context.legible_strict _ ?_
  exact (Datum.isShowable_of_mem_map hcontext (.text f.1, Context.strict f.2) (by
    rw [List.map_map]
    exact List.mem_map.2 ⟨f, hf, rfl⟩)).2

/-- Every line that an event has can be read back. -/
theorem dumpError?_eq_none {e : Event} : e.dumpError? = none ↔ e.Legible := by
  unfold dumpError?
  rw [Option.or_eq_none_iff, Json.dumpError?_ofFields]
  constructor
  · rintro ⟨hconverts, hshowable⟩
    refine legible_of_isShowable hconverts (Decidable.by_contra fun hdigits => ?_)
    rw [if_neg hdigits] at hshowable
    cases hshowable
  · intro h
    exact ⟨h.converts, if_pos (Datum.isShowable_of_legible (legible_record h))⟩

theorem parse_record {e : Event} (h : e.Legible) :
    Json.parse (Json.line e.record).toList = .ok (.map e.written) :=
  (Json.parse_line (legible_record h)).trans (by rw [normal_record])

theorem nodup_keys_record {e : Event} {r : Record} (h : e.record = .map r) :
    (r.map Prod.fst).Nodup := by
  cases h
  exact Datum.nodup_keys_fields nodup_fieldNames

theorem field?_written {e : Event} {r : Record} (h : e.record = .map r) (name : String) :
    Datum.field? name e.written = (Datum.field? name r).map Json.normal := by
  have hn := nodup_keys_record h
  have hwritten : e.written = Json.sortEntries (Json.normalEntries r) := by
    unfold written
    rw [h]
    rfl
  rw [hwritten, Json.field?_normal hn]

theorem level_written (e : Event) :
    Datum.field? "level" e.written = some (.text e.level.name) := by
  rw [field?_written rfl]
  rfl

theorem kind_written (e : Event) :
    Datum.field? "event_type" e.written = some (.text e.kind.name) := by
  rw [field?_written rfl]
  rfl

theorem errorCode_written (e : Event) :
    Datum.field? "error_code" e.written = some ((e.errorCode.map Datum.text).getD .null) := by
  rw [field?_written rfl]
  change some (Json.normal ((e.errorCode.map Datum.text).getD .null)) = _
  cases e.errorCode with
  | none => rfl
  | some s => rfl

theorem context_written (e : Event) : ∃ c, Datum.field? "context" e.written = some (.map c) ∧
    ∀ name, Datum.field? name c = (e.context.get? name).map recorded := by
  let strictFields := e.context.entries.map fun f => (f.1, Context.strict f.2)
  refine ⟨Json.sortEntries (Json.normalEntries (strictFields.map fun f => (.text f.1, f.2))), ?_,
    fun name => ?_⟩
  · rw [field?_written rfl]
    change some (Json.normal (Context.strict (.ofFields e.context.entries))) = _
    rw [strict_context]
    rfl
  · rw [Json.field?_normal (Datum.nodup_keys_fields (nodup_context e)), Datum.field?_fields]
    have hget : strictFields.lookup name = (e.context.get? name).map Context.strict :=
      Table.get?_map Context.strict e.context name
    rw [hget, Option.map_map]
    rfl

/-- A filter sees in the record what it would see in the event. -/
theorem accepts_written (f : Filter) (e : Event) :
    f.accepts e.written = .ok (e.isWanted f) := by
  obtain ⟨c, hcontext, hfields⟩ := context_written e
  have hcode : Filter.wants f.errorCode (some ((e.errorCode.map Datum.text).getD .null)) =
      Filter.wants f.errorCode (e.errorCode.map .text) := by
    cases e.errorCode with
    | none => rfl
    | some s => rfl
  unfold Filter.accepts isWanted
  rw [level_written, kind_written, errorCode_written, hcode, hcontext]
  split
  · rename_i hrest
    rw [hrest, Bool.true_and]
    cases hformula : f.formula with
    | none => rfl
    | some formula =>
      simp only [Option.getD_some]
      rw [hfields]
  · rename_i hrest
    rw [Bool.not_eq_true] at hrest
    rw [hrest, Bool.false_and]

end Event

namespace Filter

/-- When every record can be looked at, the search is a filter that stops when it has enough. -/
theorem select_map {α : Type} {f : Filter} {g : α → Record} {p : α → Bool} {as : List α}
    (h : ∀ a ∈ as, f.accepts (g a) = .ok (p a)) {n : Nat} (hn : 0 < n) :
    f.select n (as.map g) = .ok (((as.filter p).take n).map g) := by
  induction as generalizing n with
  | nil => rw [List.map_nil, select, List.filter_nil, List.take_nil, List.map_nil]
  | cons a as ih =>
    obtain ⟨ha, has⟩ := List.forall_mem_cons.1 h
    rw [List.map_cons, select, ha]
    cases hp : p a with
    | false =>
      rw [List.filter_cons_of_neg (by rw [hp]; exact Bool.false_ne_true)]
      exact ih has hn
    | true =>
      obtain ⟨k, rfl⟩ := Nat.exists_eq_succ_of_ne_zero (Nat.ne_of_gt hn)
      rw [List.filter_cons_of_pos hp, List.take_succ_cons, List.map_cons]
      simp only
      split
      · rename_i hone
        have hk : k = 0 := by omega
        rw [hk, List.take_zero, List.map_nil]
      · rw [Nat.succ_sub_one, ih has (by omega)]
        rfl

theorem count_eq {f : Filter} (h : 1 ≤ f.limit) : f.count = (min f.limit maxLimit).toNat := by
  have hmax : maxLimit = 2000 := rfl
  unfold count
  rw [hmax]
  omega

end Filter
end Formulary

import JoinPlan.Proofs.Attach.Steps
import JoinPlan.Proofs.Criteria.FixedPoints
import JoinPlan.Proofs.Json.Same
import JoinPlan.Proofs.Store.Run

/-!
# A value and its only option

To require a value on a path, and to require one of the options of which the value is the only one,
is the same query (`Json.IsDirect.exec_onlyOption`), unless the value is an object with operators
(`Json.IsDirect`).  The two conditions go different ways, first through casting and then through
matching.

* A direct value is cast as a value (`castCondition_of_isDirect`), and so is the only option under
  `$in` (`castCondition_onlyOption`).  Where a list is declared, both are taken for the whole array
  or for an item alike.
* The cast value is direct again (`Schema.isDirect_of_castAt`), so it is not mistaken for options.
  Hence the same values meet both conditions (`Document.meets_onlyOption`).
* The joins of a lookup do not depend on its criteria, and criteria that the same documents meet
  lead to the same results (`CompileContext.exec_assemble_congr`).
-/

namespace JoinPlan

/-! ### Conditions -/

theorem isOperator_in : isOperator "$in" = true := by decide

theorem Fields.get?_eq_none {fields : Fields} {key : String}
    (h : ∀ member ∈ fields, member.1 ≠ key) : fields.get? key = none := by
  induction fields with
  | nil => rfl
  | cons member rest ih =>
    obtain ⟨name, value⟩ := member
    rw [get?, if_neg (h _ List.mem_cons_self)]
    exact ih fun other hother => h other (List.mem_cons_of_mem _ hother)

namespace Json

/-- The condition of which the value is the only option. -/
def onlyOption (value : Json) : Json :=
  .object [("$in", .array [value])]

theorem isDirect_object_iff {members : Fields} :
    (Json.object members).IsDirect ↔ ∀ member ∈ members, isOperator member.1 = false :=
  ⟨fun h => h members rfl, fun h _ heq => Json.object.inj heq ▸ h⟩

instance : DecidablePred IsDirect
  | .object _ => decidable_of_iff _ isDirect_object_iff.symm
  | .null | .bool _ | .number _ | .string _ | .array _ => isTrue fun _ heq => nomatch heq

/-- A direct value has no options. -/
theorem IsDirect.get?_in {value : Json} (h : value.IsDirect) : value.get? "$in" = none := by
  cases value with
  | object members =>
    apply Fields.get?_eq_none
    intro member hmember hname
    have hnone := isDirect_object_iff.mp h member hmember
    rw [hname, isOperator_in] at hnone
    cases hnone
  | _ => rfl

end Json

/-! ### Casting -/

variable {value : Json}

theorem castCondition_onlyOption (path : String) (kind : Kind) (value : Json) :
    castCondition path kind value.onlyOption = (castValue path kind value).map Json.onlyOption := by
  have hoperator : (([("$in", .array [value])] : Fields).any fun member => isOperator member.1) =
      true := List.any_eq_true.mpr ⟨_, List.mem_singleton_self _, isOperator_in⟩
  have hoperand : castOperand path kind "$in" (.array [value]) =
      ([value].mapM fun item => castValue path kind item).map .array := by
    unfold castOperand
    rw [if_neg (by decide), if_pos (by decide)]
  unfold castCondition Json.onlyOption
  dsimp only
  rw [if_pos hoperator, castOperands, castOperands, hoperand, List.mapM_cons, List.mapM_nil]
  cases castValue path kind value <;> rfl

namespace Schema

variable (schema : Schema) (path : String)

theorem castAt_onlyOption (hdirect : value.IsDirect) :
    schema.castAt path value.onlyOption = (schema.castAt path value).map Json.onlyOption := by
  unfold castAt
  split
  · rw [castCondition_onlyOption, castCondition_of_isDirect _ _ hdirect]
  · rfl

variable {schema path} in
/-- A value that is direct stays direct when it is cast. -/
theorem isDirect_of_castAt {cast : Json} (h : schema.castAt path value = .ok cast)
    (hdirect : value.IsDirect) : cast.IsDirect := by
  unfold castAt at h
  split at h
  · rw [castCondition_of_isDirect _ _ hdirect] at h
    exact (valueTyped_of_castValue path _ h).isDirect hdirect
  · rw [← Except.ok.inj h]
    exact hdirect

end Schema

/-- Criteria with a condition on a single path are cast as that condition is. -/
theorem Caster.bySchema_single (schema : Schema) {key : String} (hkey : key ∉ logicalOperators)
    (condition : Json) : Caster.bySchema schema [(key, condition)] =
      (schema.castAt key condition).map fun cast => [(key, cast)] := by
  show schema.castCriteria [(key, condition)] = _
  rw [Schema.castCriteria, Schema.castCriteria, Schema.castEntry_of_notMem hkey]
  cases schema.castAt key condition <;> rfl

/-- What casting makes of a direct value under a path, it makes of the only option. -/
theorem Json.IsDirect.bySchema_cases (hdirect : value.IsDirect) {key : String}
    (hkey : key ∉ logicalOperators) (schema : Schema) :
    (∃ error, Caster.bySchema schema [(key, value)] = .error error ∧
      Caster.bySchema schema [(key, value.onlyOption)] = .error error) ∨
    ∃ cast, cast.IsDirect ∧ Caster.bySchema schema [(key, value)] = .ok [(key, cast)] ∧
      Caster.bySchema schema [(key, value.onlyOption)] = .ok [(key, cast.onlyOption)] := by
  rw [Caster.bySchema_single schema hkey, Caster.bySchema_single schema hkey,
    schema.castAt_onlyOption key hdirect]
  cases hcast : schema.castAt key value with
  | error error => exact .inl ⟨error, rfl, rfl⟩
  | ok cast => exact .inr ⟨cast, Schema.isDirect_of_castAt hcast hdirect, rfl, rfl⟩

/-! ### Matching -/

namespace Document

/-- The same values meet both conditions. -/
theorem meets_onlyOption (values : List Json) (h : value.IsDirect) :
    meets values value.onlyOption = meets values value := by
  have hoption : meets values value.onlyOption = values.any (·.isAmong [value]) := rfl
  have hvalue : meets values value = values.any value.same := by
    unfold meets
    rw [h.get?_in]
    rfl
  -- Among the options the stored value is asked, and otherwise the value itself.
  have hsame : (fun stored : Json => stored.isAmong [value]) = value.same := by
    funext stored
    show (stored.same value || false) = value.same stored
    rw [Bool.or_false, Json.same_comm]
  rw [hoption, hvalue, hsame]

theorem isMatch_onlyOption (document : Document) (path : String) (h : value.IsDirect) :
    isMatch document [(path, value.onlyOption)] = isMatch document [(path, value)] := by
  show (meets (valuesAt document path) value.onlyOption && true) =
    (meets (valuesAt document path) value && true)
  rw [meets_onlyOption _ h]

end Document

namespace CompileContext

variable (ctx : CompileContext) (options : LookupOptions) (store : Store)

/-- The documents of the collection that meet the criteria go through the joins. -/
theorem exec_assemble (cast : Option Criteria) : store.exec (ctx.assemble cast options) =
    match store.documents? ctx.collection with
    | none => .error (.missingCollection ctx.collection)
    | some stored => .ok (store.run (ctx.joinStages options)
        (stored.filter fun document => cast.all (Document.isMatch document))) := by
  show (match store.documents? ctx.collection with
    | none => _
    | some stored => _) = _
  cases store.documents? ctx.collection with
  | none => rfl
  | some stored => exact congrArg Except.ok (store.run_select cast _ stored)

/-- Criteria that the same documents meet lead to the same results. -/
theorem exec_assemble_congr {cast cast' : Option Criteria}
    (h : ∀ document,
      cast.all (Document.isMatch document) = cast'.all (Document.isMatch document)) :
    store.exec (ctx.assemble cast options) = store.exec (ctx.assemble cast' options) := by
  rw [exec_assemble, exec_assemble]
  simp only [h]

end CompileContext

/-! ### Lookups -/

namespace Model

variable (model : Model) (targets : Targets) {caster : Caster} {criteria : Criteria}
  (options : LookupOptions)

theorem lookup_of_cast_error {error : CastError} (h : caster model.schema criteria = .error error) :
    model.lookup targets caster (some criteria) options = .error (.criteria error) := by
  have hcast : (model.context targets caster).cast (some criteria) = .error error :=
    congrArg (Except.map some) h
  rw [lookup_eq, CompileContext.compile_eq, hcast]
  rfl

theorem lookup_of_cast_ok {cast : Criteria} (h : caster model.schema criteria = .ok cast) :
    ∃ compiled, model.lookup targets caster (some criteria) options = .ok compiled ∧
      compiled.pipeline = (model.context targets caster).assemble (some cast) options := by
  have hcast : (model.context targets caster).cast (some criteria) = .ok (some cast) :=
    congrArg (Except.map some) h
  rw [lookup_eq, CompileContext.compile_of_cast _ options hcast]
  exact ⟨_, rfl, rfl⟩

end Model

/-- With the entity attached, a query is compiled by its model. -/
theorem Session.compiled_of_tryGet {session : Session} {query : Query} {model : Model}
    (h : session.registry.tryGet query.entity = .ok model) : session.compiled query =
      model.lookup session.registry.targets query.caster query.criteria query.options := by
  rw [compiled, Registry.lookup_eq, h]
  rfl

namespace Json.IsDirect

variable {key : String} (hdirect : value.IsDirect) (hkey : key ∉ logicalOperators)

include hdirect hkey

/-- Lookups with the two conditions fail alike, or compile to pipelines that give the same in every
store. -/
theorem lookup_cases (model : Model) (targets : Targets) (options : LookupOptions) :
    (∃ failure,
      model.lookup targets .bySchema (some [(key, value)]) options = .error failure ∧
      model.lookup targets .bySchema (some [(key, value.onlyOption)]) options = .error failure) ∨
    ∃ compiled compiled',
      model.lookup targets .bySchema (some [(key, value)]) options = .ok compiled ∧
      model.lookup targets .bySchema (some [(key, value.onlyOption)]) options = .ok compiled' ∧
      ∀ store : Store, store.exec compiled.pipeline = store.exec compiled'.pipeline := by
  rcases hdirect.bySchema_cases hkey model.schema with
    ⟨error, hvalue, hoption⟩ | ⟨cast, hcast, hvalue, hoption⟩
  · exact .inl ⟨.criteria error, model.lookup_of_cast_error targets options hvalue,
      model.lookup_of_cast_error targets options hoption⟩
  · obtain ⟨compiled, hcompiled, hpipeline⟩ := model.lookup_of_cast_ok targets options hvalue
    obtain ⟨compiled', hcompiled', hpipeline'⟩ := model.lookup_of_cast_ok targets options hoption
    refine .inr ⟨compiled, compiled', hcompiled, hcompiled', fun store => ?_⟩
    rw [hpipeline, hpipeline']
    apply CompileContext.exec_assemble_congr
    exact fun document => (document.isMatch_onlyOption key hcast).symm

/-- Execution in a session answers the same to both. -/
theorem answer_exec_eq (session : Session) (entity : String) (options : LookupOptions) :
    (session.step (.exec ⟨entity, .bySchema, some [(key, value)], options⟩)).answer =
      (session.step (.exec ⟨entity, .bySchema, some [(key, value.onlyOption)], options⟩)).answer := by
  rw [Session.step_exec, Session.step_exec]
  cases hmodel : session.registry.tryGet entity with
  | error failure =>
    -- The entity is not attached, and the criteria are not looked at.
    unfold Session.compiled
    rw [Registry.lookup_eq, Registry.lookup_eq, hmodel]
    rfl
  | ok model =>
    rw [Session.compiled_of_tryGet hmodel, Session.compiled_of_tryGet hmodel]
    rcases hdirect.lookup_cases hkey model session.registry.targets options with
      ⟨failure, hvalue, hoption⟩ | ⟨compiled, compiled', hvalue, hoption, hexec⟩
    · rw [hvalue, hoption]
    · rw [hvalue, hoption]
      dsimp only
      rw [hexec]

/-- **A direct value and its only option are the same query**, on any path but a logical operator.
By any schema both are cast with the same error, or to a value and to the only option that is this
value.  On any model lookups with both fail alike, or compile to pipelines that give the same
documents, or the same error, in every store.  So every session in which they are asked answers
the same. -/
theorem exec_onlyOption :
    (∀ schema : Schema,
      (∃ error, Caster.bySchema schema [(key, value)] = .error error ∧
        Caster.bySchema schema [(key, value.onlyOption)] = .error error) ∨
      ∃ cast, Caster.bySchema schema [(key, value)] = .ok [(key, cast)] ∧
        Caster.bySchema schema [(key, value.onlyOption)] = .ok [(key, cast.onlyOption)]) ∧
    (∀ (model : Model) (targets : Targets) (options : LookupOptions),
      (∃ failure,
        model.lookup targets .bySchema (some [(key, value)]) options = .error failure ∧
        model.lookup targets .bySchema (some [(key, value.onlyOption)]) options = .error failure) ∨
      ∃ compiled compiled',
        model.lookup targets .bySchema (some [(key, value)]) options = .ok compiled ∧
        model.lookup targets .bySchema (some [(key, value.onlyOption)]) options = .ok compiled' ∧
        ∀ store : Store, store.exec compiled.pipeline = store.exec compiled'.pipeline) ∧
    ∀ (session : Session) (entity : String) (options : LookupOptions),
      (session.step (.exec ⟨entity, .bySchema, some [(key, value)], options⟩)).answer =
        (session.step (.exec ⟨entity, .bySchema, some [(key, value.onlyOption)],
          options⟩)).answer := by
  refine ⟨fun schema => ?_, hdirect.lookup_cases hkey, hdirect.answer_exec_eq hkey⟩
  rcases hdirect.bySchema_cases hkey schema with herror | ⟨cast, _, hcasts⟩
  · exact .inl herror
  · exact .inr ⟨cast, hcasts⟩

end Json.IsDirect

/-- A list of lists with an item in place of a list, on a path through a list of embedded parts.
The live album has this list among its takes and is found, with its composer.  The takes of the
studio album are the two items of the list, and it is not found. -/
theorem Json.IsDirect.exec_onlyOption_takes :
    let disc : Schema := ⟨"Disc", none, [⟨"takes", .list ⟨.list ⟨.scalar .int, {}⟩, {}⟩, {}⟩]⟩
    let album : Schema := ⟨"Album", some "albums",
      [⟨"composer", .scalar .reference, ⟨some "Person", some ⟨true, {}⟩⟩⟩,
        ⟨"discs", .list ⟨.embedded disc, {}⟩, {}⟩]⟩
    let value : Json := .array [.string "3", .array [.string " 4 "]]
    let cast : Json := .array [.number (.int 3), .array [.number (.int 4)]]
    let live : Document := [("_id", .string "L"), ("composer", .string "C"),
      ("discs", .array [.object [("takes", .array [cast, .array []])], .null])]
    let studio : Document := [("_id", .string "S"), ("composer", .string "C"),
      ("discs", .array [.object [("takes", cast)]])]
    let clara : Document := [("_id", .string "C")]
    let session : Session :=
      { ((Session.start ⟨id, id, id⟩ false).step (.attach album {})).session with
        store := ⟨[("albums", [studio, live]), ("Person", [clara])]⟩ }
    value.IsDirect ∧ "discs.takes" ∉ logicalOperators ∧
    Caster.bySchema album [("discs.takes", value)] = .ok [("discs.takes", cast)] ∧
    Caster.bySchema album [("discs.takes", value.onlyOption)] =
      .ok [("discs.takes", cast.onlyOption)] ∧
    (session.step (.exec ⟨"Album", .bySchema, some [("discs.takes", value)], {}⟩)).answer =
      .documents [live.insert "composer" (.object clara)] ∧
    (session.step (.exec ⟨"Album", .bySchema, some [("discs.takes", value.onlyOption)],
      {}⟩)).answer = .documents [live.insert "composer" (.object clara)] := by
  intro disc album value cast live studio clara session
  have hdirect : value.IsDirect := by decide
  have hkey : "discs.takes" ∉ logicalOperators := by decide
  have hvalue : Caster.bySchema album [("discs.takes", value)] = .ok [("discs.takes", cast)] := by
    rfl
  let pipeline : Pipeline := ⟨"albums", [.select [("discs.takes", cast)],
    .join ⟨"Person", "composer", "_id", "composer"⟩, .unwind ⟨"$composer", true⟩], true⟩
  have hcompiled : session.compiled ⟨"Album", .bySchema, some [("discs.takes", value)], {}⟩ =
      .ok ⟨pipeline, []⟩ := by rfl
  have hselect : session.store.run (pipeline.stages.take 1) [studio, live] = [live] := by rfl
  have hjoin : session.store.run (pipeline.stages.drop 1) [live] =
      [live.insert "composer" (.object clara)] := by rfl
  have hstored : session.store.documents? pipeline.collection = some [studio, live] := rfl
  have hexec : session.store.exec pipeline = .ok [live.insert "composer" (.object clara)] := by
    rw [session.store.exec_eq_run hstored, ← List.take_append_drop 1 pipeline.stages,
      session.store.run_append, hselect, hjoin]
  have hanswer :
      (session.step (.exec ⟨"Album", .bySchema, some [("discs.takes", value)], {}⟩)).answer =
        .documents [live.insert "composer" (.object clara)] := by
    rw [Session.step_exec, hcompiled]
    dsimp only
    rw [hexec]
  obtain ⟨hcast, _, hsession⟩ := hdirect.exec_onlyOption hkey
  refine ⟨hdirect, hkey, hvalue, ?_, hanswer, (hsession session "Album" {}).symm.trans hanswer⟩
  rcases hcast album with ⟨error, herror, _⟩ | ⟨cast', hvalue', hoption⟩
  · cases hvalue.symm.trans herror
  · cases hvalue.symm.trans hvalue'
    exact hoption

end JoinPlan

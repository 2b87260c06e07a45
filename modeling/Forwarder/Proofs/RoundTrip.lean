import Forwarder.Analysis.Json
import Forwarder.Session.Json
import Forwarder.Proofs.Snapshot.RoundTrip

/-!
# Data read back from its JSON form

Everything that the library reads and writes is read back as it was written. Decorators and reports
take no provisos: their namespaces are read as they stand, and they are never nested more deeply
than texts may be. A snapshot has to have its namespaces written as they are stored, and its text
must not be nested too deeply.
-/

namespace Forwarder

open Json

/-! ## Decorators -/

theorem Target.readsAs (target : Target) : ReadsAs Target.reader target.toJson target := by
  have hscope := ReadsAs.optionalString target.scope
  have hname := ReadsAs.string target.name
  refine .record rfl (by decide) ?_ fun inside hfits => ?_
  · simp only [List.forall_mem_cons]
    exact ⟨hscope.written, hname.written, by simp⟩
  · simp only [List.forall_mem_cons] at hfits
    obtain ⟨hscope', hname', -⟩ := hfits
    simp only [List.map_cons, List.map_nil, hscope.optionalField hscope', hname.required hname']
    rfl

theorem PassingMode.readsAs_forwardedName (passing : PassingMode) :
    ReadsAs (readChoice forwardedPassing) (.string passing.forwardedName) passing :=
  .choice (by cases passing <;> rfl)

theorem ForwardedParameter.readsAs (parameter : ForwardedParameter) :
    ReadsAs ForwardedParameter.reader parameter.toJson parameter := by
  have hexpression := ReadsAs.string parameter.expression
  have hname := ReadsAs.string parameter.name
  have hpassing := parameter.passing.readsAs_forwardedName
  refine .record rfl (by decide) ?_ fun inside hfits => ?_
  · simp only [List.forall_mem_cons]
    exact ⟨hexpression.written, hname.written, hpassing.written, by simp⟩
  · simp only [List.forall_mem_cons] at hfits
    obtain ⟨hexpression', hname', hpassing', -⟩ := hfits
    simp only [List.map_cons, List.map_nil, hexpression.required hexpression',
      hname.required hname', hpassing.withDefault hpassing']
    rfl

theorem ForwardedMethod.readsAs (method : ForwardedMethod) :
    ReadsAs ForwardedMethod.reader method.toJson method := by
  have hname := ReadsAs.string method.name
  have hreturn := ReadsAs.string method.returnType
  have hawaited := ReadsAs.bool method.isAwaited
  have hparameters := ReadsAs.list fun parameter (_ : parameter ∈ method.parameters) =>
    parameter.readsAs
  refine .record rfl (by decide) ?_ fun inside hfits => ?_
  · simp only [List.forall_mem_cons]
    exact ⟨hname.written, hreturn.written, hawaited.written, hparameters.written, by simp⟩
  · simp only [List.forall_mem_cons] at hfits
    obtain ⟨hname', hreturn', hawaited', hparameters', -⟩ := hfits
    simp only [List.map_cons, List.map_nil, hname.required hname', hreturn.required hreturn',
      hawaited.required hawaited', hparameters.required hparameters']
    rfl

theorem DecoratedInterface.readsAs (interface : DecoratedInterface) :
    ReadsAs DecoratedInterface.reader interface.toJson interface := by
  have hscope := ReadsAs.optionalString interface.scope
  have hfull := ReadsAs.string interface.fullName
  have hminimal := ReadsAs.string interface.minimalName
  have haccessor := ReadsAs.string interface.accessor
  have hmethods := ReadsAs.list fun method (_ : method ∈ interface.methods) => method.readsAs
  refine .record rfl (by decide) ?_ fun inside hfits => ?_
  · simp only [List.forall_mem_cons]
    exact ⟨hscope.written, hfull.written, hminimal.written, haccessor.written, hmethods.written,
      by simp⟩
  · simp only [List.forall_mem_cons] at hfits
    obtain ⟨hscope', hfull', hminimal', haccessor', hmethods', -⟩ := hfits
    simp only [List.map_cons, List.map_nil, hscope.optionalField hscope', hfull.required hfull',
      hminimal.required hminimal', haccessor.required haccessor', hmethods.required hmethods']
    rfl

theorem Decorator.readsAs (decorator : Decorator) :
    ReadsAs Decorator.reader decorator.toJson decorator := by
  have htarget := decorator.target.readsAs
  have hinterfaces := ReadsAs.list fun interface (_ : interface ∈ decorator.interfaces) =>
    interface.readsAs
  refine .record rfl (by decide) ?_ fun inside hfits => ?_
  · simp only [List.forall_mem_cons]
    exact ⟨htarget.written, hinterfaces.written, by simp⟩
  · simp only [List.forall_mem_cons] at hfits
    obtain ⟨htarget', hinterfaces', -⟩ := hfits
    simp only [List.map_cons, List.map_nil, htarget.required htarget',
      hinterfaces.required hinterfaces']
    rfl

/-! ## Reports of runs -/

theorem SourceUnit.readsAs (unit : SourceUnit) :
    ReadsAs SourceUnit.reader unit.toJson unit := by
  have hname := ReadsAs.string unit.name
  have htext := ReadsAs.string unit.text
  refine .record rfl (by decide) ?_ fun inside hfits => ?_
  · simp only [List.forall_mem_cons]
    exact ⟨hname.written, htext.written, by simp⟩
  · simp only [List.forall_mem_cons] at hfits
    obtain ⟨hname', htext', -⟩ := hfits
    simp only [List.map_cons, List.map_nil, hname.required hname', htext.required htext']
    rfl

theorem Tally.readsAs (tally : Tally) : ReadsAs Tally.reader tally.toJson tally := by
  have hruns := ReadsAs.uint32 tally.runs
  have hnew := ReadsAs.uint32 tally.new
  have hmodified := ReadsAs.uint32 tally.modified
  have hcached := ReadsAs.uint32 tally.cached
  have hremoved := ReadsAs.uint32 tally.removed
  have hfailed := ReadsAs.uint32 tally.failed
  have hcancelled := ReadsAs.uint32 tally.cancelled
  refine .record rfl (by decide) ?_ fun inside hfits => ?_
  · simp only [List.forall_mem_cons]
    exact ⟨hruns.written, hnew.written, hmodified.written, hcached.written, hremoved.written,
      hfailed.written, hcancelled.written, by simp⟩
  · simp only [List.forall_mem_cons] at hfits
    obtain ⟨hruns', hnew', hmodified', hcached', hremoved', hfailed', hcancelled', -⟩ := hfits
    simp only [List.map_cons, List.map_nil, hruns.required hruns', hnew.required hnew',
      hmodified.required hmodified', hcached.required hcached', hremoved.required hremoved',
      hfailed.required hfailed', hcancelled.required hcancelled']
    rfl

theorem UnitStatus.readsAs_name (status : UnitStatus) :
    ReadsAs (readChoice UnitStatus.choices) (.string status.name) status :=
  .choice (by cases status <;> rfl)

theorem ReportedUnit.readsAs (output : ReportedUnit) :
    ReadsAs ReportedUnit.reader output.toJson output := by
  have htarget := output.target.readsAs
  have hname := ReadsAs.string output.name
  have hstatus := output.status.readsAs_name
  have htext := ReadsAs.string output.text
  have hfingerprint := ReadsAs.string output.fingerprint
  refine .record rfl (by decide) ?_ fun inside hfits => ?_
  · simp only [List.forall_mem_cons]
    exact ⟨htarget.written, hname.written, hstatus.written, htext.written, hfingerprint.written,
      by simp⟩
  · simp only [List.forall_mem_cons] at hfits
    obtain ⟨htarget', hname', hstatus', htext', hfingerprint', -⟩ := hfits
    simp only [List.map_cons, List.map_nil, htarget.required htarget', hname.required hname',
      hstatus.required hstatus', htext.required htext', hfingerprint.required hfingerprint']
    rfl

theorem FailedTarget.readsAs (failure : FailedTarget) :
    ReadsAs FailedTarget.reader failure.toJson failure := by
  have htarget := failure.target.readsAs
  have hmessage := ReadsAs.string failure.message
  refine .record rfl (by decide) ?_ fun inside hfits => ?_
  · simp only [List.forall_mem_cons]
    exact ⟨htarget.written, hmessage.written, by simp⟩
  · simp only [List.forall_mem_cons] at hfits
    obtain ⟨htarget', hmessage', -⟩ := hfits
    simp only [List.map_cons, List.map_nil, htarget.required htarget', hmessage.required hmessage']
    rfl

theorem RunReport.readsAs (result : RunReport) :
    ReadsAs RunReport.reader result.toJson result := by
  have hmarker := ReadsAs.optional SourceUnit.readsAs (by simp [SourceUnit.toJson]) result.marker
  have houtputs := ReadsAs.list fun output (_ : output ∈ result.outputs) => output.readsAs
  have hfailures := ReadsAs.list fun failure (_ : failure ∈ result.failures) => failure.readsAs
  have htally := result.tally.readsAs
  refine .record rfl (by decide) ?_ fun inside hfits => ?_
  · simp only [List.forall_mem_cons]
    exact ⟨hmarker.written, houtputs.written, hfailures.written, htally.written, by simp⟩
  · simp only [List.forall_mem_cons] at hfits
    obtain ⟨hmarker', houtputs', hfailures', htally', -⟩ := hfits
    simp only [List.map_cons, List.map_nil, hmarker.optionalField hmarker',
      houtputs.required houtputs', hfailures.required hfailures', htally.required htally']
    rfl

/-! ## Analysis reports -/

theorem Severity.readsAs_name (severity : Severity) :
    ReadsAs (readChoice Severity.choices) (.string severity.name) severity :=
  .choice (by cases severity <;> rfl)

theorem Diagnostic.readsAs (diagnostic : Diagnostic) :
    ReadsAs Diagnostic.reader diagnostic.toJson diagnostic := by
  have hid := ReadsAs.string diagnostic.id
  have hseverity := diagnostic.severity.readsAs_name
  have htitle := ReadsAs.string diagnostic.title
  have hcategory := ReadsAs.string diagnostic.category
  have hmessage := ReadsAs.string diagnostic.message
  have hlocation := diagnostic.location.readsAs
  refine .record rfl (by decide) ?_ fun inside hfits => ?_
  · simp only [List.forall_mem_cons]
    exact ⟨hid.written, hseverity.written, htitle.written, hcategory.written, hmessage.written,
      hlocation.written, by simp⟩
  · simp only [List.forall_mem_cons] at hfits
    obtain ⟨hid', hseverity', htitle', hcategory', hmessage', hlocation', -⟩ := hfits
    simp only [List.map_cons, List.map_nil, hid.required hid', hseverity.required hseverity',
      htitle.required htitle', hcategory.required hcategory', hmessage.required hmessage',
      hlocation.required hlocation']
    rfl

theorem Analysis.readsAs (report : Analysis) :
    ReadsAs Analysis.reader report.toJson report := by
  have hcount := ReadsAs.uint64 report.typeCount
  have hdiagnostics := ReadsAs.list fun diagnostic (_ : diagnostic ∈ report.diagnostics) =>
    diagnostic.readsAs
  refine .record rfl (by decide) ?_ fun inside hfits => ?_
  · simp only [List.forall_mem_cons]
    exact ⟨hcount.written, hdiagnostics.written, by simp⟩
  · simp only [List.forall_mem_cons] at hfits
    obtain ⟨hcount', hdiagnostics', -⟩ := hfits
    simp only [List.map_cons, List.map_nil, hcount.required hcount',
      hdiagnostics.required hdiagnostics']
    rfl

/-! ## Depth -/

theorem Target.depth_toJson (target : Target) : target.toJson.depth ≤ 1 := by
  have hscope := depth_optionalString target.scope
  simp only [toJson, depth, depthOfFields]
  omega

theorem ForwardedParameter.depth_toJson (parameter : ForwardedParameter) :
    parameter.toJson.depth ≤ 1 := Nat.le_refl 1

theorem ForwardedMethod.depth_toJson (method : ForwardedMethod) : method.toJson.depth ≤ 3 := by
  have hparameters : (Json.array (method.parameters.map (·.toJson))).depth ≤ 2 :=
    depth_map_le ForwardedParameter.depth_toJson _
  simp only [toJson, depth, depthOfFields] at hparameters ⊢
  omega

theorem DecoratedInterface.depth_toJson (interface : DecoratedInterface) :
    interface.toJson.depth ≤ 5 := by
  have hscope := depth_optionalString interface.scope
  have hmethods : (Json.array (interface.methods.map (·.toJson))).depth ≤ 4 :=
    depth_map_le ForwardedMethod.depth_toJson _
  simp only [toJson, depth, depthOfFields] at hmethods ⊢
  omega

theorem Decorator.depth_toJson (decorator : Decorator) : decorator.toJson.depth ≤ 7 := by
  have htarget := decorator.target.depth_toJson
  have hinterfaces : (Json.array (decorator.interfaces.map (·.toJson))).depth ≤ 6 :=
    depth_map_le DecoratedInterface.depth_toJson _
  simp only [toJson, depth, depthOfFields] at hinterfaces ⊢
  omega

theorem ReportedUnit.depth_toJson (output : ReportedUnit) : output.toJson.depth ≤ 2 := by
  have htarget := output.target.depth_toJson
  simp only [toJson, depth, depthOfFields]
  omega

theorem FailedTarget.depth_toJson (failure : FailedTarget) : failure.toJson.depth ≤ 2 := by
  have htarget := failure.target.depth_toJson
  simp only [toJson, depth, depthOfFields]
  omega

theorem RunReport.depth_toJson (result : RunReport) : result.toJson.depth ≤ 4 := by
  have hmarker : (result.marker.elim Json.null (·.toJson)).depth ≤ 1 := by
    cases result.marker with
    | none => exact Nat.zero_le 1
    | some unit => exact Nat.le_refl 1
  have houtputs : (Json.array (result.outputs.map (·.toJson))).depth ≤ 3 :=
    depth_map_le ReportedUnit.depth_toJson _
  have hfailures : (Json.array (result.failures.map (·.toJson))).depth ≤ 3 :=
    depth_map_le FailedTarget.depth_toJson _
  have htally : result.tally.toJson.depth = 1 := rfl
  simp only [toJson, depth, depthOfFields] at houtputs hfailures ⊢
  omega

theorem Diagnostic.depth_toJson (diagnostic : Diagnostic) : diagnostic.toJson.depth ≤ 2 :=
  Nat.le_refl 2

theorem Analysis.depth_toJson (report : Analysis) : report.toJson.depth ≤ 4 := by
  have hdiagnostics : (Json.array (report.diagnostics.map (·.toJson))).depth ≤ 3 :=
    depth_map_le Diagnostic.depth_toJson _
  simp only [toJson, nat, depth, depthOfFields] at hdiagnostics ⊢
  omega

/-! ## Texts -/

/-- Data of every kind is read back from the texts that it is written as: snapshots whose
namespaces are written as they are stored and that are not nested too deeply, and all decorators,
reports of runs, tallies and analysis reports. -/
theorem all_readsBack :
    (∀ snapshot : Snapshot, snapshot.isStored = true → snapshot.toJson.depth ≤ nestingLimit →
      ReadsBack Snapshot.reader Snapshot.toJson snapshot) ∧
    (∀ decorator, ReadsBack Decorator.reader Decorator.toJson decorator) ∧
    (∀ result, ReadsBack RunReport.reader RunReport.toJson result) ∧
    (∀ tally, ReadsBack Tally.reader Tally.toJson tally) ∧
    ∀ report, ReadsBack Analysis.reader Analysis.toJson report := by
  refine ⟨fun snapshot hstored hdepth => ?_, fun decorator => ?_, fun result => ?_,
    fun tally => ?_, fun report => ?_⟩
  · exact (Snapshot.readsAs hstored).readsBack hdepth
  · exact decorator.readsAs.readsBack (Nat.le_trans decorator.depth_toJson (by decide))
  · exact result.readsAs.readsBack (Nat.le_trans result.depth_toJson (by decide))
  · exact tally.readsAs.readsBack (by decide : 1 ≤ nestingLimit)
  · exact report.readsAs.readsBack (Nat.le_trans report.depth_toJson (by decide))

/-- A snapshot with references and members of every kind, in namespaces and outside of them. -/
def stockSnapshot : Snapshot where
  types := [
    { scope := none
      name := "Shelf"
      kind := .value
      attributes := ["global::Decorgen.GenericDecorator"]
      interfaces := [.named ⟨some "Shop", ["Hall"], "IStock"⟩
        [.array (.nullable (.parameter "T")) 2, .named ⟨none, [], "Item"⟩ []]]
      methods := [
        { name := "Put"
          typeParameters := ["T"]
          parameters := [⟨"item", .pointer .void, .output, true⟩]
          returnType := .unresolved "Task"
          implemented := true }]
      location := ⟨"Shelf.cs", 7, 21⟩ }]
  interfaces := [
    { head := ⟨some "Shop", ["Hall"], "IStock"⟩
      typeParameters := ["T", "U"]
      members := [.method ⟨"Count", [], [], .void, false⟩, .property "First" (.parameter "T"),
        .event "Emptied" (.named ⟨some "System", [], "Action"⟩ [.parameter "U"])] }]

theorem all_readsBack_stock :
    stockSnapshot.isStored = true ∧ stockSnapshot.toJson.depth ≤ nestingLimit ∧
    ReadsBack Snapshot.reader Snapshot.toJson stockSnapshot := by
  have hstored : stockSnapshot.isStored = true := by decide
  have hdepth : stockSnapshot.toJson.depth ≤ nestingLimit := by decide
  exact ⟨hstored, hdepth, all_readsBack.1 stockSnapshot hstored hdepth⟩

end Forwarder

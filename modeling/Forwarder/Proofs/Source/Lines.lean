import Forwarder.Template.Parse
import Forwarder.Proofs.Rendering
import Forwarder.Proofs.Text.Identifier

/-!
# Generated source line by line

The generated half of a decorator, printed without a template: the list of its lines, each a fixed
text around the texts of the decorator. The layout that generation fills is what the written
template says, and filling it comes to just these lines, for any number of interfaces, methods and
parameters and whatever their texts are. A decorator has no unit only if the unit's name is that of
the marker attribute's, which with valid settings takes a type of the marker's name in the global
namespace.
-/

namespace Forwarder

open Text

/-! ## The written template -/

/-- The written form of a decorator's template. The blank before the tilde keeps the brace in front
of it apart from those of the tag, and the tilde takes it away again. -/
def decoratorTemplate : String :=
  "// <auto-generated/>\x7b\x7b#if namespace\x7d\x7d\n" ++
  "namespace \x7b\x7bnamespace\x7d\x7d;\x7b\x7b/if\x7d\x7d\n\n" ++
  "partial class \x7b\x7bclass_name\x7d\x7d\n" ++
  "\x7b \x7b\x7b~#each hooks\x7d\x7d\n" ++
  "    \x7b\x7bthis\x7d\x7d\x7b\x7b/each\x7d\x7d\x7b\x7b#each interfaces\x7d\x7d\n\n" ++
  "    private partial \x7b\x7bfully_qualified_name\x7d\x7d \x7b\x7baccessor_name\x7d\x7d();" ++
  "\x7b\x7b#each members\x7d\x7d\n" ++
  "    \x7b\x7breturn_type\x7d\x7d \x7b\x7binterface_name\x7d\x7d.\x7b\x7bname\x7d\x7d(" ++
  "\x7b\x7bparameter_list\x7d\x7d) => \x7b\x7bhook\x7d\x7d(() => " ++
  "\x7b\x7baccessor_name\x7d\x7d().\x7b\x7bname\x7d\x7d(\x7b\x7bargument_list\x7d\x7d));" ++
  "\x7b\x7b/each\x7d\x7d\x7b\x7b/each\x7d\x7d\n" ++
  "\x7d\n"

/-- The tokens of a decorator's template, without the blanks that the tilde takes away. -/
def decoratorTokens : List TemplateToken := [
  .text "// <auto-generated/>".toList, .tag "#if namespace".toList, .text "\nnamespace ".toList,
  .tag "namespace".toList, .text ";".toList, .tag "/if".toList, .text "\n\npartial class ".toList,
  .tag "class_name".toList, .text "\n\x7b".toList, .tag "#each hooks".toList,
  .text "\n    ".toList, .tag "this".toList, .tag "/each".toList, .tag "#each interfaces".toList,
  .text "\n\n    private partial ".toList, .tag "fully_qualified_name".toList, .text " ".toList,
  .tag "accessor_name".toList, .text "();".toList, .tag "#each members".toList,
  .text "\n    ".toList, .tag "return_type".toList, .text " ".toList, .tag "interface_name".toList,
  .text ".".toList, .tag "name".toList, .text "(".toList, .tag "parameter_list".toList,
  .text ") => ".toList, .tag "hook".toList, .text "(() => ".toList, .tag "accessor_name".toList,
  .text "().".toList, .tag "name".toList, .text "(".toList, .tag "argument_list".toList,
  .text "));".toList, .tag "/each".toList, .tag "/each".toList, .text "\n\x7d\n".toList]

theorem tokens_decoratorTemplate :
    (Template.tokens false [] decoratorTemplate.toList).map (Template.trimBlanks false) =
      some decoratorTokens := by
  -- the characters of a literal are computed far faster one after the other than out of its bytes
  unfold decoratorTemplate
  repeat rw [String.toList_append]
  repeat rw [String.toList_ofList]
  decide +kernel

/-- The layout that generation fills is what the written template says. -/
theorem parse?_decoratorTemplate : Template.parse? decoratorTemplate = some decoratorLayout := by
  obtain ⟨tokens, htokens, htrimmed⟩ := Option.map_eq_some_iff.1 tokens_decoratorTemplate
  have hbuild : Template.build [] [] decoratorTokens = some decoratorLayout := rfl
  rw [← htrimmed] at hbuild
  rw [Template.parse?, htokens]
  exact hbuild

/-! ## The lines -/

/-- Lines as one text, each ended by a line break. -/
def unlines (lines : List String) : String := String.join (lines.map (· ++ "\n"))

/-- The line that implements a forwarded method. -/
def ForwardedMethod.sourceLine (interface : DecoratedInterface) (method : ForwardedMethod) :
    String :=
  "    " ++ method.returnType ++ " " ++ interface.fullName ++ "." ++ method.name ++ "(" ++
    method.parameterText ++ ") => " ++ Hook.nameFor method.isAwaited ++ "(() => " ++
    interface.accessor ++ "()." ++ method.name ++ "(" ++ method.argumentText ++ "));"

/-- The lines of an interface: a blank one, its accessor, and one for each of its methods. -/
def DecoratedInterface.sourceLines (interface : DecoratedInterface) : List String :=
  "" :: ("    private partial " ++ interface.fullName ++ " " ++ interface.accessor ++ "();") ::
    interface.methods.map (·.sourceLine interface)

/-- The line that declares the namespace of a target, if its namespace has a name. -/
def Target.scopeLines (target : Target) : List String :=
  match target.declaredScope with
  | none => []
  | some scope => if scope = "" then [] else ["namespace " ++ scope ++ ";"]

/-- The lines of the generated half of a decorator. -/
def Decorator.sourceLines (decorator : Decorator) : List String :=
  "// <auto-generated/>" :: (decorator.target.scopeLines ++
    ["", "partial class " ++ decorator.target.name, "\x7b"] ++
    Hook.all.map ("    " ++ ·.declaration) ++ decorator.interfaces.flatMap (·.sourceLines) ++
    ["\x7d"])

/-! ## The texts as lines -/

/-- Lines as one text that goes on from another one, each begun by a line break. -/
def furtherLines (lines : List String) : String := String.join (lines.map ("\n" ++ ·))

theorem furtherLines_cons (line : String) (rest : List String) :
    furtherLines (line :: rest) = "\n" ++ line ++ furtherLines rest := by
  rw [furtherLines, List.map_cons, String.join_cons, ← furtherLines]

theorem furtherLines_append (lines more : List String) :
    furtherLines (lines ++ more) = furtherLines lines ++ furtherLines more := by
  rw [furtherLines, List.map_append, String.join_append, ← furtherLines, ← furtherLines]

theorem furtherLines_flatMap {α : Type} (items : List α) (lines : α → List String) :
    furtherLines (items.flatMap lines) = String.join (items.map (furtherLines ∘ lines)) := by
  induction items with
  | nil => rfl
  | cons item rest ih =>
    rw [List.flatMap_cons, furtherLines_append, ih, List.map_cons, String.join_cons]
    rfl

theorem unlines_cons (line : String) (rest : List String) :
    unlines (line :: rest) = line ++ furtherLines rest ++ "\n" := by
  induction rest generalizing line with
  | nil => simp [unlines, furtherLines]
  | cons next rest ih =>
    have hnext : unlines (line :: next :: rest) = line ++ "\n" ++ unlines (next :: rest) := by
      rw [unlines, List.map_cons, String.join_cons, ← unlines]
    rw [hnext, ih, furtherLines_cons]
    simp only [String.append_assoc]

theorem append_indent (rest : String) : "\n    " ++ rest = "\n" ++ ("    " ++ rest) := by
  rw [← String.append_assoc]
  rfl

theorem ForwardedMethod.sourceText_eq (interface : DecoratedInterface) (method : ForwardedMethod) :
    method.sourceText interface = "\n" ++ method.sourceLine interface := by
  unfold sourceText sourceLine
  refine String.join_cons.trans ((append_indent _).trans ?_)
  simp only [String.join_cons, String.join_nil, String.append_assoc, String.append_empty]

theorem DecoratedInterface.sourceText_eq (interface : DecoratedInterface) :
    interface.sourceText = furtherLines interface.sourceLines := by
  have hbreak : "\n\n    private partial " = "\n" ++ ("\n" ++ "    private partial ") := rfl
  have hmethods : interface.methods.map (·.sourceText interface) =
      (interface.methods.map (·.sourceLine interface)).map ("\n" ++ ·) := by
    rw [List.map_map]
    exact List.map_congr_left fun method _ => method.sourceText_eq interface
  rw [sourceText, hmethods, ← furtherLines, sourceLines, furtherLines_cons, furtherLines_cons,
    hbreak]
  simp only [String.join_cons, String.join_nil, String.append_assoc, String.append_empty]

theorem Target.scopeText_eq (target : Target) :
    target.scopeText = furtherLines target.scopeLines := by
  have hbreak : "\nnamespace " = "\n" ++ "namespace " := rfl
  rw [scopeText, scopeLines]
  cases target.declaredScope with
  | none => rfl
  | some scope =>
    by_cases hempty : scope = ""
    · simp only [hempty, if_true]
      rfl
    · simp only [hempty, if_false, hbreak, furtherLines, List.map_cons, List.map_nil,
        String.join_cons, String.join_nil, String.append_assoc]

/-- The generated half of a decorator is its lines. -/
theorem Decorator.sourceText_eq (decorator : Decorator) :
    decorator.sourceText = unlines decorator.sourceLines := by
  have hclass : "\n\npartial class " = "\n" ++ ("\n" ++ "partial class ") := rfl
  have hopen : "\n\x7b" = "\n" ++ "\x7b" := rfl
  have hclose : "\n\x7d\n" = "\n" ++ ("\x7d" ++ "\n") := rfl
  have hhooks : String.join (Hook.all.map fun hook => String.join ["\n    ", hook.declaration]) =
      furtherLines (Hook.all.map ("    " ++ ·.declaration)) := by
    simp only [furtherLines, append_indent, List.map_map, Function.comp_def, String.join_cons,
      String.join_nil, String.append_empty]
  have hinterfaces : String.join (decorator.interfaces.map (·.sourceText)) =
      furtherLines (decorator.interfaces.flatMap (·.sourceLines)) := by
    rw [furtherLines_flatMap]
    exact congrArg String.join
      (List.map_congr_left fun interface _ => interface.sourceText_eq)
  rw [sourceText, sourceLines, unlines_cons, hhooks, hinterfaces, Target.scopeText_eq]
  simp only [furtherLines_append, furtherLines_cons, hclass, hopen, hclose, String.join_cons,
    String.join_nil, String.append_assoc, String.append_empty]
  rfl

/-! ## The reserved name -/

/-- The unit of a target whose namespace has no name is called after the target alone. -/
theorem Target.unitName_of_unscoped {target : Target}
    (h : target.declaredScope = none ∨ target.declaredScope = some "") (suffix : String) :
    target.unitName suffix = target.name ++ suffix := by
  rw [declaredScope] at h
  rw [unitName, unitNameOf]
  rcases h with h | h
  · rw [h]
  · rw [h]
    rfl

theorem Target.unitName_of_scoped {target : Target} {scope : String}
    (h : target.declaredScope = some scope) (hscope : scope ≠ "") (suffix : String) :
    target.unitName suffix = scope ++ "." ++ target.name ++ suffix := by
  rw [declaredScope] at h
  rw [unitName, unitNameOf, h]
  split
  · contradiction
  · rename_i heq
    exact absurd (Option.some.inj heq) hscope
  · rename_i heq
    rw [Option.some.inj heq]

/-- With valid settings the name of the marker attribute's unit is taken by one target only, that
of the marker's name whose namespace has no name. -/
theorem Target.unitName_eq_markerUnitName_iff {settings : Settings} (h : settings.Valid)
    (target : Target) : target.unitName settings.unitSuffix = settings.markerUnitName ↔
      (target.declaredScope = none ∨ target.declaredScope = some "") ∧
        target.name = settings.markerName := by
  obtain ⟨-, hmarker, -, -⟩ := h
  by_cases hscope : target.declaredScope = none ∨ target.declaredScope = some ""
  · rw [unitName_of_unscoped hscope, Settings.markerUnitName, String.append_left_inj]
    exact (and_iff_right hscope).symm
  · obtain ⟨hnone, hempty⟩ := not_or.1 hscope
    obtain ⟨scope, hsome⟩ := Option.ne_none_iff_exists'.1 hnone
    have hne : scope ≠ "" := fun heq => hempty (heq ▸ hsome)
    rw [unitName_of_scoped hsome hne, Settings.markerUnitName, String.append_left_inj]
    refine iff_of_false (fun heq => ?_) fun hboth => hscope hboth.1
    -- a dotted name is no identifier
    refine dot_not_mem_of_isIdentifier hmarker ?_
    rw [← heq]
    simp

/-! ## Units -/

/-- Generation prints a decorator's lines. The only failure is that of a unit with the name of the
marker attribute's, and with valid settings only the marker's name in the global namespace gives
that. The layout that is filled on the way is the one of the written template. -/
theorem Decorator.sourceUnit_eq_lines (decorator : Decorator) (settings : Settings) :
    Template.parse? decoratorTemplate = some decoratorLayout ∧
    decorator.sourceUnit settings =
      (if decorator.target.unitName settings.unitSuffix = settings.markerUnitName then
        .error (.invalidSymbol decorator.target.display
          ("unit name " ++ settings.markerUnitName ++ " is reserved for the marker attribute"))
      else .ok
        ⟨decorator.target.unitName settings.unitSuffix, unlines decorator.sourceLines⟩) ∧
    (settings.Valid →
      ((∃ failure, decorator.sourceUnit settings = .error failure) ↔
        (decorator.target.declaredScope = none ∨ decorator.target.declaredScope = some "") ∧
          decorator.target.name = settings.markerName)) := by
  refine ⟨parse?_decoratorTemplate, ?_, fun hvalid => ?_⟩
  · rw [sourceUnit_eq, sourceText_eq]
  · rw [← decorator.target.unitName_eq_markerUnitName_iff hvalid, sourceUnit_eq]
    split
    · rename_i hname
      exact iff_of_true ⟨_, rfl⟩ hname
    · rename_i hname
      refine iff_of_false (fun hfails => ?_) hname
      obtain ⟨failure, heq⟩ := hfails
      cases heq

/-- A decorator of two interfaces, one of them without methods. -/
def cacheDecorator : Decorator where
  target := ⟨some "global::Shop", "CacheDecorator"⟩
  interfaces := [
    { scope := some "global::Shop", fullName := "global::Shop.ICache", minimalName := "ICache"
      accessor := "GetInnerICache"
      methods := [
        { name := "TryGet", returnType := "bool", isAwaited := false
          parameters := [⟨"string", "key", .value⟩, ⟨"out int", "value", .output⟩] },
        { name := "Load<T>", returnType := "global::System.Threading.Tasks.Task<T>"
          isAwaited := true, parameters := [] }] },
    { scope := none, fullName := "global::ILog", minimalName := "ILog"
      accessor := "GetInnerILog", methods := [] }]

/-- The lines of `cacheDecorator`, which has a unit under the default settings. -/
theorem Decorator.sourceUnit_eq_lines_cache :
    cacheDecorator.sourceLines = [
      "// <auto-generated/>",
      "namespace Shop;",
      "",
      "partial class CacheDecorator",
      "\x7b",
      "    private partial void Decorate(global::System.Action doInner);",
      "    private partial T Decorate<T>(global::System.Func<T> doInner);",
      "    private partial global::System.Threading.Tasks.Task DecorateAsync(" ++
        "global::System.Func<global::System.Threading.Tasks.Task> doInner);",
      "    private partial global::System.Threading.Tasks.Task<T> DecorateAsync<T>(" ++
        "global::System.Func<global::System.Threading.Tasks.Task<T>> doInner);",
      "",
      "    private partial global::Shop.ICache GetInnerICache();",
      "    bool global::Shop.ICache.TryGet(string key, out int value) => " ++
        "Decorate(() => GetInnerICache().TryGet(key, out value));",
      "    global::System.Threading.Tasks.Task<T> global::Shop.ICache.Load<T>() => " ++
        "DecorateAsync(() => GetInnerICache().Load<T>());",
      "",
      "    private partial global::ILog GetInnerILog();",
      "\x7d"] ∧
    Settings.default.Valid ∧
    cacheDecorator.sourceUnit .default =
      .ok ⟨"Shop.CacheDecorator.g.cs", unlines cacheDecorator.sourceLines⟩ ∧
    ∃ failure, Decorator.sourceUnit ⟨⟨some "global::", "GenericDecoratorAttribute"⟩, []⟩ .default =
      .error failure := by
  have hvalid : Settings.default.Valid := by decide +kernel
  have hname : cacheDecorator.target.unitName Settings.default.unitSuffix =
      "Shop.CacheDecorator.g.cs" := by decide +kernel
  refine ⟨by decide +kernel, hvalid, ?_, ?_⟩
  · rw [(cacheDecorator.sourceUnit_eq_lines .default).2.1, hname]
    exact if_neg (by decide +kernel)
  · refine ((Decorator.sourceUnit_eq_lines _ .default).2.2 hvalid).2 ?_
    exact ⟨Or.inr (by decide +kernel), by decide +kernel⟩

end Forwarder

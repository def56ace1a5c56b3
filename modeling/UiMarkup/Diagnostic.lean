import UiMarkup.Handle

namespace UiMarkup

inductive Level
  | error | warn | info | debug | trace
deriving DecidableEq, Repr, Inhabited

inductive EntryKind
  | style | const | font | image | subject | callback | timeline | gradient
deriving DecidableEq, Repr, Inhabited

def EntryKind.title : EntryKind → String
  | .style    => "Style"
  | .const    => "Constant"
  | .font     => "Font"
  | .image    => "Image"
  | .subject  => "Subject"
  | .callback => "Event callback"
  | .timeline => "Timeline"
  | .gradient => "Gradient"

inductive RegistryError
  | styleWithoutName
  | unknownScope (scope : ScopeId)
deriving DecidableEq, Repr, Inhabited

def RegistryError.message : RegistryError → String
  | .styleWithoutName   => "style has no `name` attribute"
  | .unknownScope scope => "scope " ++ scope.text ++ " does not exist"

inductive Diagnostic
  | notABoolean (text : String)
  | notANumber (text : String)
  | notAColor (text : String)
  | notAToken (text title : String)
  | notABorderSide (token : String)
  | notACellControl (token : String)
  | unresolved (kind : EntryKind) (name : String)
  | unknownSubject (name site : String)
  | unknownStyle (name : String)
  | unknownStyleScope (scope : String)
  | unknownConstScope (scope name : String)
  | unknownElement (name : String)
  | parameterUnset (parameter attr : String)
  | attributeMissing (attr site : String)
  | unsupportedAttribute (attr tag : String)
  | unsupportedStyleProp (name : String)
  | unsupportedAnimationProp (name : String)
  | outsideSection (tag : String)
  | ignoredInApi (tag : String)
  | incompleteConst (tag : String)
  | incompleteImage
  | notAGradient (tag : String)
  | betweenStops (tag : String)
  | stopOutsideGradient
  | tooFewStops (gradient : String)
  | notAStyle (tag : String)
  | notAFont (tag : String)
  | notAnImage (tag : String)
  | notASubject (tag : String)
  | fontWithoutSource (name : String)
  | fontNotLoaded (name source : String)
  | outsideTimeline (tag : String)
  | notInTimeline (tag : String)
  | entryRefused (kind : EntryKind) (name : String) (error : RegistryError)
  | parameterRefused (name : String) (error : RegistryError)
  | styleRefused (error : RegistryError)
  | styleExtended (name scope : String)
  | elementTooDeep (tag : String) (levels : Nat)
  | componentTooDeep (name : String)
  | componentWithoutRoot (name : String)
  | componentAttrsDropped (base name : String)
  | componentInstantiated (name : String)
  | parentMissing (tag : String)
  | misplaced (what place : String)
  | headerWithoutCalendar
  | noTabs
  | tabOutOfRange (index : Int)
  | noUsableStyle
  | noUsableFlag
  | noUsableState
  | globalsLoaded
  | componentWithoutView (name : String)
  | componentRegistered (name : String) (scope : ScopeId)
  | createFailed (name : String)
deriving DecidableEq, Repr, Inhabited

namespace Diagnostic

def level : Diagnostic → Level
  | .createFailed _          => .error
  | .styleExtended ..        => .info
  | .globalsLoaded           => .info
  | .componentRegistered ..  => .info
  | .outsideSection _        => .debug
  | .ignoredInApi _          => .debug
  | .componentInstantiated _ => .debug
  | _                        => .warn

def message : Diagnostic → String
  | .notABoolean text => s!"'{text}' is not a valid boolean, using false"
  | .notANumber text => s!"'{text}' is not a valid number, using 0"
  | .notAColor text => s!"'{text}' is not a valid color, using black"
  | .notAToken text title => s!"'{text}' is not a known {title} value, using the default"
  | .notABorderSide token => s!"'{token}' is not a known border side"
  | .notACellControl token => s!"'{token}' is not a known table cell ctrl"
  | .unresolved kind name => s!"{kind.title} `{name}` is not found"
  | .unknownSubject name site => s!"Subject \"{name}\" doesn't exist in {site}"
  | .unknownStyle name => s!"No style found with {name} name"
  | .unknownStyleScope scope => s!"'{scope}' is not a known scope"
  | .unknownConstScope scope name =>
    s!"Scope `{scope}` is not found (looking for constant `{name}`)"
  | .unknownElement name => s!"`{name}` is not a known widget or component"
  | .parameterUnset parameter attr => s!"Parameter `{parameter}` is not set, `{attr}` skipped"
  | .attributeMissing attr site => s!"'{attr}' is missing from {site}"
  | .unsupportedAttribute attr tag => s!"`{attr}` is not a supported attribute of <{tag}>"
  | .unsupportedStyleProp name => s!"{name} style property is not supported"
  | .unsupportedAnimationProp name => s!"{name} style property is not supported in <animation>"
  | .outsideSection tag => s!"<{tag}> outside of any section, ignored"
  | .ignoredInApi tag => s!"<{tag}> in <api> ignored"
  | .incompleteConst tag => s!"<{tag}> constant needs 'name' and 'value'"
  | .incompleteImage => "<file> image needs 'name' and 'src_path'"
  | .notAGradient tag => s!"<{tag}> is not a gradient"
  | .betweenStops tag => s!"<{tag}> is not allowed between gradient stops"
  | .stopOutsideGradient => "<stop> outside of a gradient"
  | .tooFewStops gradient => s!"Gradient `{gradient}` has fewer than two stops"
  | .notAStyle tag => s!"<{tag}> is not allowed in <styles>"
  | .notAFont tag => s!"<{tag}> is not a supported font type"
  | .notAnImage tag => s!"<{tag}> is not a supported image type"
  | .notASubject tag => s!"<{tag}> is not a supported subject type"
  | .fontWithoutSource name => s!"Font `{name}` has no source"
  | .fontNotLoaded name source => s!"Font `{name}` could not be loaded from {source}"
  | .outsideTimeline tag => s!"<{tag}> outside of a <timeline>"
  | .notInTimeline tag => s!"<{tag}> is not allowed in a timeline"
  | .entryRefused kind name error => s!"{kind.title} `{name}`: {error.message}"
  | .parameterRefused name error => s!"Parameter `{name}`: {error.message}"
  | .styleRefused error => s!"<style> skipped: {error.message}"
  | .styleExtended name scope =>
    s!"Style `{name}` is already registered in `{scope}`, extending it"
  | .elementTooDeep tag levels => s!"<{tag}> is nested more than {levels} levels deep, skipped"
  | .componentTooDeep name => s!"Component `{name}` is nested too deeply, skipped"
  | .componentWithoutRoot name => s!"Component `{name}` did not create a view"
  | .componentAttrsDropped base name =>
    s!"No processor for `{base}`, attributes of `{name}` dropped"
  | .componentInstantiated name => s!"Component `{name}` instantiated"
  | .parentMissing tag => s!"<{tag}> needs a parent object"
  | .misplaced what place => s!"{what} must be placed in {place}"
  | .headerWithoutCalendar => "A calendar header needs a <calendar> parent"
  | .noTabs =>
    "There are no buttons on the tab view. Get tab buttons when the tabs are already created"
  | .tabOutOfRange index => s!"Tab index {index} is out of range, using the first tab instead"
  | .noUsableStyle => "<bind_style> has no usable style"
  | .noUsableFlag => "<bind_flag> needs a known 'flag'"
  | .noUsableState => "<bind_state> needs a known 'state'"
  | .globalsLoaded => "Globals loaded"
  | .componentWithoutView name => s!"Component `{name}` has no <view>"
  | .componentRegistered name scope => s!"Component `{name}` registered in scope {scope.text}"
  | .createFailed name => s!"Failed to create `{name}`"

end Diagnostic

structure Noted (α : Type) where
  value : α
  notes : List Diagnostic := []

namespace Noted

variable {α β : Type}

instance : Monad Noted where
  pure a := ⟨a, []⟩
  bind x f := ⟨(f x.value).value, x.notes ++ (f x.value).notes⟩

@[simp] theorem value_pure (a : α) : (pure a : Noted α).value = a := rfl
@[simp] theorem notes_pure (a : α) : (pure a : Noted α).notes = [] := rfl
@[simp] theorem value_bind (x : Noted α) (f : α → Noted β) :
    (x >>= f).value = (f x.value).value := rfl
@[simp] theorem notes_bind (x : Noted α) (f : α → Noted β) :
    (x >>= f).notes = x.notes ++ (f x.value).notes := rfl
@[simp] theorem value_map (f : α → β) (x : Noted α) : (f <$> x).value = f x.value := rfl

instance : LawfulMonad Noted := LawfulMonad.mk' Noted
  (fun _ => by simp [Functor.map])
  (fun _ _ => by simp [bind, pure])
  (fun _ _ _ => by simp [bind])

def note (d : Diagnostic) : Noted Unit :=
  ⟨(), [d]⟩

def because (a : α) (d : Diagnostic) : Noted α :=
  ⟨a, [d]⟩

def collect (f : α → Noted (List β)) : List α → Noted (List β)
  | [] => pure []
  | a :: as => do
    let bs ← f a
    let rest ← collect f as
    return bs ++ rest

@[simp] theorem value_because (a : α) (d : Diagnostic) : (because a d).value = a := rfl

theorem value_collect (f : α → Noted (List β)) (as : List α) :
    (collect f as).value = as.flatMap fun a => (f a).value := by
  induction as with
  | nil => rfl
  | cons a as ih => simp [collect, ih]

end Noted

end UiMarkup

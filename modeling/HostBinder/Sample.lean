import HostBinder.Binder.Generation
import HostBinder.Injection.Dispatch

set_option autoImplicit false

/-!
A small application: a few widgets, and three screens that bind them. One screen binds a clock, which is no
view, and one is declared after the binders were generated and has none registered.
-/

namespace HostBinder.Sample

def componentPath (ident : String) : String :=
  if ident = "View" then Settings.default.baseType else memberPath "viewbind_e2e::widgets" ident

def widget (ident : String) (extends? : Option String) : Node :=
  .component ⟨⟨"viewbind_e2e::widgets", ident⟩, extends?.map componentPath⟩

def components : List Node :=
  [.component ⟨⟨"viewbind::ui", "View"⟩, none⟩, widget "TextView" (some "View"),
    widget "Label" (some "TextView"), widget "Button" (some "TextView"), widget "Clock" none]

def screen (ident : String) (bindings : List Binding) : Host :=
  ⟨⟨"viewbind_e2e::screens", ident⟩, bindings⟩

def loginScreen : Host :=
  screen "LoginScreen" [⟨"title", componentPath "Label", 100⟩, ⟨"submit", componentPath "Button", 101⟩]

def statusScreen : Host :=
  screen "StatusScreen" [⟨"heading", componentPath "Label", 100⟩, ⟨"clock", componentPath "Clock", 102⟩]

def draftScreen : Host := screen "DraftScreen" [⟨"title", componentPath "Label", 100⟩]

def schema : Schema :=
  .ofNodes (components ++ [loginScreen, statusScreen, draftScreen].map Node.host)

def released : Schema := .ofNodes (components ++ [loginScreen, statusScreen].map Node.host)

def details (ident text : String) : List (String × String) :=
  if ident = "Label" then [("text", text)]
  else if ident = "Button" then [("caption", text)]
  else []

def view (serial : Nat) (ident text : String) : View := ⟨serial, componentPath ident, details ident text⟩

def hostType (h : Host) : HostType := ⟨h.name.path, 0⟩

def target (h : Host) : Target := .fresh (hostType h) h.bindings

def units (s : Schema) : List BinderUnit :=
  match generate s .default (.resolve .none) with
  | .ok g => g.units
  | .error _ => []

/-- The method of the unit generated for a host; it assigns nothing if there is no unit. -/
def injector (h : Host) : Injector :=
  ((units schema).find? fun u => u.hostPath = h.name.path).elim (fun t => (.ok (), t)) BinderUnit.injector

def registry : Registry :=
  (units released).foldl (fun r u => r.register u.registeredName ⟨⟨u.hostPath, 0⟩, u.injector⟩) .empty

end HostBinder.Sample

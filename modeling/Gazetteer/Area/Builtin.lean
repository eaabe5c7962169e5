import Gazetteer.Text.Fold

/-!
# Built-in areas

Feature areas that most projects have, with the other names they go by. Names are compared folded.
-/

namespace Gazetteer.Area

structure Builtin where
  id : String
  name : String
  aliases : List String
deriving DecidableEq, Repr

namespace Builtin

def all : List Builtin :=
  [⟨"auth", "Authentication",
      ["authentication", "login", "logout", "signin", "sign-in", "signup", "sign-up", "register",
       "session", "sessions", "autenticación", "anmeldung"]⟩,
   ⟨"billing", "Billing",
      ["payment", "payments", "checkout", "subscription", "subscriptions", "invoice", "invoices",
       "pricing", "facturación", "pagos"]⟩,
   ⟨"dashboard", "Dashboard", ["overview", "panel", "tableau-de-bord"]⟩,
   ⟨"settings", "Settings", ["preferences", "configuración", "paramètres", "einstellungen"]⟩,
   ⟨"profile", "User profile", ["profiles", "account", "accounts", "perfil"]⟩,
   ⟨"admin", "Administration", ["administration", "backoffice", "back-office", "administración"]⟩,
   ⟨"notifications", "Notifications", ["notification", "alerts", "inbox", "notificaciones"]⟩,
   ⟨"search", "Search", ["búsqueda", "recherche"]⟩,
   ⟨"onboarding", "Onboarding", ["welcome", "getting-started", "setup-wizard"]⟩,
   ⟨"analytics", "Analytics", ["metrics", "reports", "reporting", "stats", "estadísticas"]⟩,
   ⟨"messaging", "Messaging", ["messages", "chat", "conversations", "mensajes"]⟩]

/-- The names of an area: its id, its friendly name and its aliases. -/
def names (b : Builtin) : List String := b.id :: b.name :: b.aliases

/-- The folded names of the areas, with their areas. -/
def foldedNames : List (List Char × Builtin) :=
  all.flatMap fun b => b.names.map fun name => (Text.fold name.toList, b)

/-- The first area that goes by a folded name. -/
def ofFolded? (name : List Char) : Option Builtin :=
  if name = [] then none else foldedNames.lookup name

/-- The first area that goes by a name. -/
def ofName? (name : String) : Option Builtin := ofFolded? (Text.fold name.toList)

def ofId? (id : String) : Option Builtin := all.find? fun b => b.id = id

end Builtin
end Gazetteer.Area

/-! # State store errors -/

namespace SolFrontier.StateStore

/-- The failures a repository call reports. Driver, migration and serializer
errors are opaque here: no caller looks inside them. -/
inductive StoreError where
  | sqlx
  | migration
  | serialization
  | notFound (entity id : String)
  | integrityCheckFailed (message : String)
  deriving DecidableEq, Repr

end SolFrontier.StateStore

/-
  Conform catalog: records with fixed fields.

  * `Catalog.server`, `Catalog.endpoint`, `Catalog.service`, `Catalog.account`.
  * `Catalog.record?`: the records by their names.
-/
import Conform.Catalog.Leaves

namespace Conform.Catalog

/-- A machine and where it listens. -/
def server : Schema :=
  .typedRecord [
    ("host", .leaf .string),
    ("port", .leaf .integer),
    ("tls", .optional (.leaf .boolean))]

/-- A place to send requests to. -/
def endpoint : Schema :=
  .typedRecord [
    ("url", .leaf .string),
    ("retries", .withDefault (.leaf .integer) (.int 3)),
    ("timeout", .optional (.leaf .asNumber)),
    ("headers", .record (.leaf .string))]

/-- A name with some endpoints. -/
def service : Schema :=
  .typedRecord [
    ("name", .leaf .string),
    ("endpoints", .array endpoint)]

/-- A person with a role, a place and a score. -/
def account : Schema :=
  .typedRecord [
    ("zip", .withMessage (.leaf nonEmpty) "zip required" none),
    ("id", .orElse (.leaf .integer) (.leaf .asInteger)),
    ("role", .withDefault (.enums ["admin", "user"]) (.str "user")),
    ("parent", .nullable (.leaf .integer)),
    ("pos", .tuple [.leaf .number, .leaf .number]),
    ("score", numberOrNull)]

/-- The records by their names. -/
def record? (name : String) : Option Schema :=
  match name with
  | "server" => some server
  | "endpoint" => some endpoint
  | "service" => some service
  | "account" => some account
  | _ => none

end Conform.Catalog

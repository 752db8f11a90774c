import MaskedLog.Failure
import MaskedLog.Unicode.Lower
import MaskedLog.Unicode.Blank
/-!
# Header lists

The headers of a request or response are a list of name and value pairs, kept
in order and with repeats. Names and values are Latin-1 text: every character
stands for one byte. Names in a request are lowercase; names a response sets may
not be.

The logger reads and writes headers through two operations of the web
framework, taken here as a parameter (`HeaderOps`): the value of the first
header with a name, and the headers with a name set to a value. What the logger
relies on of them is stated once, as `HeaderOps.Lawful`: a name whose lowercase
form is Latin-1 can be looked up, what is found is a stored value, and such a
name can be set to any Latin-1 value.

The framework's own operations on a list (`listHeaders`) work as follows. A
lookup lowercases the wanted name and compares it with the stored names as they
are, taking the first match, so a stored name with capitals is never found.
Setting a name replaces its first entry, drops the others and keeps the order,
or appends a new entry. A name whose lowercase form leaves Latin-1 cannot be
looked up or set.

## Main definitions

* `Headers`, `HeaderOps`, `HeaderOps.Lawful` — header lists, the operations on
  them and what the logger relies on.
* `Headers.get?`, `Headers.set`, `listHeaders` — the framework's operations.
* `clientAddress` — the client of a request, preferring proxy headers.

## References

`bodylog/middleware.py` (`_client_ip`, `_ResponseRecorder`); the header lists
of Starlette's `Headers` and `MutableHeaders`.
-/

namespace MaskedLog.Http

open MaskedLog.Unicode

/-- A list of headers, in order. -/
abbrev Headers := List (String × String)

/-- Whether every character of a text is a Latin-1 byte. -/
def isLatin1 (s : String) : Bool := s.toList.all fun c => c.toNat < 256

/-! ### The operations the logger uses -/

/-- The header operations of the web framework: the value of the first header
with a name, and the headers with a name set to a value. Either may fail. -/
structure HeaderOps where
  get? : Headers → String → Except Failure (Option String)
  set : Headers → String → String → Except Failure Headers

/-- What the logger relies on of the header operations. A name whose lowercase
form is Latin-1 can be looked up, and a value found is that of a stored header;
such a name can be set to any Latin-1 value. -/
structure HeaderOps.Lawful (ops : HeaderOps) : Prop where
  get_ok : ∀ (hs : Headers) (name : String), isLatin1 (lowerString name) = true →
    ∃ v, ops.get? hs name = .ok v ∧ ∀ x ∈ v, ∃ k, (k, x) ∈ hs
  set_ok : ∀ (hs : Headers) (name value : String), isLatin1 (lowerString name) = true →
    isLatin1 value = true → ∃ hs', ops.set hs name value = .ok hs'

/-- The value of the first header with the given name, or `d`. -/
def HeaderOps.getD (ops : HeaderOps) (hs : Headers) (name d : String) : Except Failure String :=
  return (← ops.get? hs name).getD d

/-! ### The framework's operations on a list -/

/-- The lowercase form of a header name, as it is compared with stored names. -/
def headerKey (name : String) : Except Failure String :=
  let k := lowerString name
  if isLatin1 k then .ok k else .error .unencodable

/-- The value of the first header with the given name. -/
def Headers.get? (hs : Headers) (name : String) : Except Failure (Option String) := do
  let k ← headerKey name
  return hs.lookup k

/-- Keep the first entry of name `k`, with value `v`, and drop its others. -/
def replaceFirst (k v : String) : Headers → Headers
  | [] => []
  | (k', v') :: rest =>
    if k' = k then (k, v) :: rest.filter (·.1 != k) else (k', v') :: replaceFirst k v rest

/-- The headers with the name set to the value: its first entry replaced and
the others dropped, or a new entry at the end. -/
def Headers.set (hs : Headers) (name value : String) : Except Failure Headers := do
  let k ← headerKey name
  if !isLatin1 value then throw .unencodable
  if hs.any (·.1 == k) then return replaceFirst k value hs
  else return hs ++ [(k, value)]

/-- The framework's header operations on a list. -/
def listHeaders : HeaderOps := ⟨Headers.get?, Headers.set⟩

/-! ### The client -/

/-- The host of a connection's client entry, normally a `(host, port)` pair:
its item `0`, or the empty text for an entry that counts as false. A number
has no items; a mapping needs the key `0`. -/
def clientHost (client : Value) : Except Failure Value :=
  if !client.truthy then .ok (.str "")
  else
    match client with
    | .list (x :: _) | .tuple (x :: _) => .ok x
    | .str s => .ok (.str (s.toList.headD ' ').toString)
    | .bytes (b :: _) => .ok (.int b.toNat)
    | .dict es =>
      match es.find? (fun e => e.1.same (.int 0)) with
      | some e => .ok e.2
      | none => .error .missingKey
    | _ => .error .wrongType

/-- The address of the client: the first entry of a forwarding list when it is
not blank, else a real-address header, else the host of the connection's
client entry. -/
def clientAddress (ops : HeaderOps) (hs : Headers) (client : Value) : Except Failure Value := do
  let forwarded ← ops.get? hs "x-forwarded-for"
  let first := trimString (((forwarded.getD "").splitOn ",").headD "")
  if !first.isEmpty then return .str first
  match ← ops.get? hs "x-real-ip" with
  | some r => if !r.isEmpty then return .str (trimString r)
  | none => pure ()
  clientHost client

end MaskedLog.Http

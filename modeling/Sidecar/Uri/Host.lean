/-
# Hosts of URIs

A host part names nobody, this machine or another one. It is an address in
brackets, a domain name, or an address in numbers.

Key definition: `Uri.nameHost?`.
-/
import Sidecar.Domain.Basic
import Sidecar.Net.Address
import Sidecar.Uri.Percent

namespace Sidecar.Uri

/-- Whom the host part names. -/
inductive Host where
  | none
  | localhost
  | other
  deriving DecidableEq, Repr

/-- The name of this machine. -/
def localhost : List Char := "localhost".toList

/-- Whom a domain name stands for, if it can be one. -/
def domainHost? (cs : List Char) : Option Host :=
  match Domain.ofText? cs with
  | none => none
  | some labels =>
    if labels == [localhost] then some .localhost
    else if Domain.isNumeric labels && !Domain.isAddress labels then none
    else some .other

/-- The host that a name behind a well-known scheme stands for, if a host can be named so. -/
def nameHost? (cs : List Char) : Option Host :=
  if cs.head? == some '[' then
    if cs.getLast? == some ']' && (Net.Address.v6? (cs.drop 1).dropLast).isSome then some .other
    else none
  else domainHost? (Utf8.lossy (decodePercent (Utf8.encode cs)))

end Sidecar.Uri

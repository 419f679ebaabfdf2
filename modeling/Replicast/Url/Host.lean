import Replicast.Url.Idna
import Replicast.Url.Ipv6
import Replicast.Url.Percent
/-!
# Hosts of URLs

## Overview

* `Host` is a name, an address of four bytes or an address of sixteen bytes.
* `Host.parse?` reads the host of a web address; `Host.parseOpaque?` reads a host whose scheme gives
  it no meaning.
* `Host.text` writes a host.
-/

namespace Replicast

/-- The host of a URL. -/
inductive Host where
  | domain (name : Chars)
  | ipv4 (address : Nat)
  | ipv6 (groups : List Nat)
deriving DecidableEq, Repr

namespace Host

/-- The address between brackets, if a text begins with one. -/
def bracketed? (text : Chars) : Option (Option Host) :=
  match text with
  | '[' :: rest =>
    some (if rest.getLast? == some ']' then (Ipv6.parse? rest.dropLast).map ipv6 else none)
  | _ => none

/-- Read the host of a web address: percent-encoded bytes are decoded, international names are put
    into ASCII, and a name that ends in a number must be an address. -/
def parse? (text : Chars) : Option Host :=
  match bracketed? text with
  | some result => result
  | none => do
    let decoded ← Utf8.decode? (Percent.decode (Utf8.encode text))
    let name ← Idna.toAscii? decoded
    if name.isEmpty then none
    else if Ipv4.endsInNumber name then (Ipv4.parse? name).map ipv4
    else some (domain name)

/-- A character that may not stand in any host. -/
def isForbidden (c : Char) : Bool :=
  "\x00\t\n\r #/:<>?@[\\]^|".toList.contains c

/-- Read a host whose scheme gives it no meaning; it may be empty. -/
def parseOpaque? (text : Chars) : Option Host :=
  match bracketed? text with
  | some result => result
  | none =>
    if text.any isForbidden then none
    else some (domain (Percent.encode Percent.controls text))

def text : Host → Chars
  | domain name => name
  | ipv4 address => Ipv4.text address
  | ipv6 groups => '[' :: Ipv6.text groups ++ [']']

end Host

end Replicast

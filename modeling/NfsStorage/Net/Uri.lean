/-!
Which texts are URIs. The parts of a URI differ in the characters that they may hold.
-/

namespace NfsStorage.Net.Uri

def isPathChar (c : Char) : Bool :=
  ' ' < c && c ≠ '<' && c ≠ '>' && c ≠ '\x60'

def isQueryChar (c : Char) : Bool := ' ' < c && c ≠ '\x22' && c ≠ '<' && c ≠ '>'

/-- Whether a text may be the rest of a path or of a query, and what comes after it. What follows a
number sign may be anything. -/
def isTarget (inQuery : Bool) : List Char → Bool
  | [] => true
  | c :: rest =>
    if c = '#' then true
    else if inQuery then isQueryChar c && isTarget true rest
    else if c = '?' then isTarget true rest
    else isPathChar c && isTarget false rest

def isPathEnd (c : Char) : Bool := c = '?' || c = '#'

def isAuthorityEnd (c : Char) : Bool := c = '/' || isPathEnd c

def isAuthorityChar (c : Char) : Bool := c.isAlphanum || "!$&\x27()*+,-.;=_~".toList.contains c

/-- What has been seen of an authority: colons that count, brackets, percent signs that count, and
whether an at sign came last. -/
structure AuthorityScan where
  colons : Nat := 0
  hasOpened : Bool := false
  hasClosed : Bool := false
  hasPercent : Bool := false
  isAfterAt : Bool := false

/-- Take in one more character. What stands before an at sign or between brackets does not count. -/
def AuthorityScan.next? (s : AuthorityScan) (c : Char) : Option AuthorityScan :=
  if c = ':' then
    if 8 ≤ s.colons then none else some { s with colons := s.colons + 1, isAfterAt := false }
  else if c = '[' then
    if s.hasPercent || s.hasOpened then none
    else some { s with hasOpened := true, isAfterAt := false }
  else if c = ']' then
    if !s.hasOpened || s.hasClosed then none
    else some { colons := 0, hasOpened := true, hasClosed := true }
  else if c = '@' then some { s with colons := 0, hasPercent := false, isAfterAt := true }
  else if c = '%' then some { s with hasPercent := true, isAfterAt := false }
  else if isAuthorityChar c then some { s with isAfterAt := false }
  else none

/-- An authority with at most one colon, for a port. -/
def isAuthority (text : List Char) : Bool :=
  match text.foldlM AuthorityScan.next? {} with
  | some s => s.hasOpened = s.hasClosed && s.colons ≤ 1 && !s.hasPercent && !s.isAfterAt
  | none => false

def isSchemeChar (c : Char) : Bool := c.isAlphanum || c = '+' || c = '-' || c = '.'

def afterScheme? (text : List Char) : Option (List Char) :=
  match text.dropWhile isSchemeChar with
  | ':' :: '/' :: '/' :: rest => some rest
  | _ => none

def isUri (text : String) : Bool :=
  match text.toList with
  | ['*'] => true
  | '/' :: rest => isTarget false rest
  | characters =>
    match afterScheme? characters with
    | some rest =>
      let authority := rest.takeWhile (!isAuthorityEnd ·)
      !authority.isEmpty && isAuthority authority && isTarget false (rest.drop authority.length)
    | none => !characters.isEmpty && isAuthority characters

end NfsStorage.Net.Uri

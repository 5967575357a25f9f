/-
  TableLedger.Url.Path — paths of URLs.

  A path is cut at its slashes, and every segment is encoded.  A segment of
  one dot is left out; one of two dots takes the segment before it away,
  unless that is a drive letter.  A path that ends in dots ends in a slash.
-/

import TableLedger.Url.Encoding

namespace TableLedger.Url

/-! ## §1. Segments -/

/-- Cut a text where a character is a separator. -/
def cutWhere (isSeparator : Char → Bool) : Text → List Text
  | [] => [[]]
  | c :: rest =>
    let pieces := cutWhere isSeparator rest
    if isSeparator c then [] :: pieces else (c :: pieces.headD []) :: pieces.tail

/-- Whether a segment stands for the place it is at. -/
def isSingleDot (segment : Text) : Bool :=
  [".".toList, "%2e".toList].contains segment.asciiLowercase

/-- Whether a segment stands for the place above. -/
def isDoubleDot (segment : Text) : Bool :=
  ["..".toList, ".%2e".toList, "%2e.".toList, "%2e%2e".toList].contains segment.asciiLowercase

/-- Whether a segment is a drive letter. -/
def isDrive : Text → Bool
  | [letter, mark] => letter.isAlpha && (mark == ':' || mark == '|')
  | _ => false

/-- Whether a segment is a drive letter up to its first backslash. -/
def opensDrive (segment : Text) : Bool := isDrive (Text.upTo '\\' segment)

/-- Take the latest segment away, unless a drive letter opens it; latest first. -/
def climb : List Text → List Text
  | [] => []
  | segment :: above => if opensDrive segment then segment :: above else above

/-- Resolve the dots of segments; those kept so far are given latest first. -/
def resolve (kept : List Text) : List Text → List Text
  | [] => kept.reverse
  | segment :: rest =>
    let atEnd : List Text := if rest.isEmpty then [[]] else []
    if isDoubleDot segment then resolve (atEnd ++ climb kept) rest
    else if isSingleDot segment then resolve (atEnd ++ kept) rest
    else resolve (segment :: kept) rest

/-- The resolved segments of a path that is given without its first slash. -/
def segments (isSeparator : Char → Bool) (t : Text) : List Text :=
  resolve [] ((cutWhere isSeparator t).map (encode encodedInPath))

/-- Segments as a path. -/
def rooted (ss : List Text) : Text := '/' :: Text.join ['/'] ss

/-! ## §2. Paths by kind of scheme -/

def isSlash (c : Char) : Bool := c == '/'

/-- Under special schemes a backslash is a slash. -/
def isAnySlash (c : Char) : Bool := c == '/' || c == '\\'

/-- The text without a first separator. -/
def dropSeparator (isSeparator : Char → Bool) : Text → Text
  | [] => []
  | c :: rest => if isSeparator c then rest else c :: rest

/-- A path behind a host; it may be missing. -/
def generalPath (t : Text) : Text :=
  if t.isEmpty then [] else rooted (segments isSlash (dropSeparator isSlash t))

/-- A path under a special scheme, which is never missing. -/
def specialPath (t : Text) : Text := rooted (segments isAnySlash (dropSeparator isAnySlash t))

/-- Segments in which a drive letter that comes first is marked by a colon. -/
def markDrive : List Text → List Text
  | [letter, '|'] :: rest => (if letter.isAlpha then [letter, ':'] else [letter, '|']) :: rest
  | ss => ss

/-- The segments of a path of files. -/
def fileSegments (t : Text) : List Text :=
  markDrive (segments isAnySlash (dropSeparator isAnySlash t))

/-- The segments of a path of files behind slashes that name no host.  Its first
    slash counts as an empty segment in front, so that a drive letter does not
    come first. -/
def localSegments (t : Text) : List Text := markDrive (segments isAnySlash t)

/-- A path of files, without empty segments in front. -/
def filePath (ss : List Text) : Text := '/' :: (rooted ss).dropWhile isSlash

end TableLedger.Url

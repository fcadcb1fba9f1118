/-
The tokens of a YAML text and the faults that keep a text from having a meaning.

The structure of a block text, which the author shows by indentation, is spelled out by tokens of
its own: one opens a collection where its first line is indented further, and one ends it where a
line is indented less. So tokens alone, without their places, say what a text means.
-/

set_option autoImplicit false

namespace ClusterFixture.Yaml

/-- Why a text has no meaning. -/
inductive YamlFault where
  /-- A line is indented as nothing around it allows. -/
  | indentation
  /-- A tab where only spaces can indent. -/
  | tabIndentation
  /-- A comment right behind something else. -/
  | commentUnspaced
  /-- A key without its colon. -/
  | keyWithoutValue
  | keyMisplaced
  | valueMisplaced
  | entryMisplaced
  /-- A key of one line goes on in the next. -/
  | keyBroken
  | unexpectedCharacter
  /-- Something stands behind the end of a value, a directive or a document. -/
  | trailingContent
  | unclosedQuote
  | invalidEscape
  | invalidBlockHeader
  | emptyAnchor
  | invalidTag
  | invalidDirective
  | tooDeep
  | nodeMissing
  | separatorMissing
  | unknownAnchor
  | unknownHandle
  | duplicateKey
  /-- More than one document, or what follows the only one begins none. -/
  | furtherDocument
  deriving DecidableEq, Repr

/-- A token. -/
inductive Token where
  | version
  | tagDirective (handle lead : String)
  | documentStart
  | documentEnd
  | blockSequenceStart
  | blockMappingStart
  | blockEnd
  | flowSequenceStart
  | flowSequenceEnd
  | flowMappingStart
  | flowMappingEnd
  | blockEntry
  | flowEntry
  | key
  | value
  | alias (name : String)
  | anchor (name : String)
  | tag (handle suffix : String)
  /-- A text without quotes, whose spelling decides what it is. -/
  | plain (text : String)
  /-- A text in quotes or of a block, which is nothing but a text. -/
  | text (text : String)
  deriving DecidableEq, Repr

/-! ## Classes of characters -/

/-- A space or a tab. -/
def isBlank (c : Char) : Bool := c = ' ' || c = '\t'

/-- The end of a line. -/
def isBreak (c : Char) : Bool := c = '\n' || c = '\r'

/-- A character that structures collections in brackets. -/
def isFlow (c : Char) : Bool := [',', '[', ']', '\x7b', '\x7d'].contains c

/-- A character of a name: ASCII letters, digits, underscore and hyphen. -/
def isName (c : Char) : Bool := c.isAlphanum || c = '_' || c = '-'

/-- A character of an anchor. -/
def isAnchor (c : Char) : Bool := !(isBlank c || isBreak c || isFlow c || c = '\uFEFF')

/-- A character that tags are written with. -/
def isUri (c : Char) : Bool :=
  isName c || "#;/?:@&=+$,_.!~*'()[]%".toList.contains c

/-- A character of the last part of a tag. -/
def isTag (c : Char) : Bool := isUri c && !isFlow c && c ≠ '!'

/-- Whether a run of characters begins with a blank or ends here, or its line does. -/
def endsWord : List Char → Bool
  | [] => true
  | c :: _ => isBlank c || isBreak c

/-- Whether a run of characters ends here, or its line does. -/
def endsLine : List Char → Bool
  | [] => true
  | c :: _ => isBreak c

/-- Whether a line begins with the given mark of a document, which nothing adjoins. -/
def marksDocument (mark rest : List Char) : Bool :=
  mark.isPrefixOf rest && endsWord (rest.drop mark.length)

/-- Whether a line begins or ends a document. -/
def isDocumentMark (rest : List Char) : Bool :=
  marksDocument ['-', '-', '-'] rest || marksDocument ['.', '.', '.'] rest

end ClusterFixture.Yaml

namespace UiMarkup.Markup

inductive MarkupFault
  | unclosedTag
  | unknownMarkup
  | unclosedCharacterData
  | unclosedComment
  | unclosedDoctype
  | unclosedInstruction
  | doctypeWithoutName
  | unmatchedEnd (tag : String)
  | mismatchedEnd (opened tag : String)
deriving DecidableEq, Repr, Inhabited

def MarkupFault.message : MarkupFault → String
  | .unclosedTag => "syntax error: tag not closed: `>` not found before end of input"
  | .unknownMarkup => "syntax error: unknown or missed symbol in markup"
  | .unclosedCharacterData => "syntax error: CDATA not closed: `]]>` not found before end of input"
  | .unclosedComment => "syntax error: comment not closed: `-->` not found before end of input"
  | .unclosedDoctype => "syntax error: DOCTYPE not closed: `>` not found before end of input"
  | .unclosedInstruction =>
    "syntax error: processing instruction or xml declaration not closed: " ++
    "`?>` not found before end of input"
  | .doctypeWithoutName =>
    "ill-formed document: `<!DOCTYPE>` declaration does not contain a name of a document type"
  | .unmatchedEnd tag =>
    s!"ill-formed document: close tag `</{tag}>` does not match any open tag"
  | .mismatchedEnd opened tag =>
    s!"ill-formed document: expected `</{opened}>`, but `</{tag}>` was found"

inductive AttrFault
  | equalsExpected (position : Nat)
  | valueExpected (position : Nat)
  | quoteExpected (position : Nat)
  | unclosedQuote (position : Nat) (quote : Char)
  | duplicate (position previous : Nat)
deriving DecidableEq, Repr, Inhabited

def AttrFault.message : AttrFault → String
  | .equalsExpected position =>
    s!"position {position}: attribute key must be directly followed by `=` or space"
  | .valueExpected position => s!"position {position}: `=` must be followed by an attribute value"
  | .quoteExpected position =>
    s!"position {position}: attribute value must be enclosed in `\"` or `'`"
  | .unclosedQuote position quote =>
    s!"position {position}: missing closing quote `{quote}` in attribute value"
  | .duplicate position previous =>
    s!"position {position}: duplicated attribute, previous declaration at position {previous}"

inductive CodeFault
  | signed
  | empty
  | invalidDigit
  | tooLarge
  | nul
  | notACharacter (code : Nat)
deriving DecidableEq, Repr, Inhabited

def CodeFault.message : CodeFault → String
  | .signed             => "unexpected number sign"
  | .empty              => "cannot parse integer from empty string"
  | .invalidDigit       => "invalid digit found in string"
  | .tooLarge           => "number too large to fit in target type"
  | .nul                => "0x0 character is not permitted in XML"
  | .notACharacter code => s!"`{code}` is not a valid codepoint"

inductive ReferenceFault
  | unterminated (start stop : Nat)
  | unknown (start stop : Nat) (name : String)
  | code (fault : CodeFault)
deriving DecidableEq, Repr, Inhabited

def ReferenceFault.message : ReferenceFault → String
  | .unterminated start stop =>
    s!"Error while escaping character at range {start}..{stop}: Cannot find ';' after '&'"
  | .unknown start stop name => s!"at {start}..{stop}: unrecognized entity `{name}`"
  | .code fault => "invalid character reference: " ++ fault.message

inductive Error
  | markup (position : Nat) (fault : MarkupFault)
  | attribute (fault : AttrFault)
  | value (fault : ReferenceFault)
  | unclosed (tag : String)
deriving DecidableEq, Repr, Inhabited

def Error.message : Error → String
  | .markup position fault => s!"xml error at byte {position}: " ++ fault.message
  | .attribute fault       => "attribute error: " ++ fault.message
  | .value fault           => "attribute value: " ++ fault.message
  | .unclosed tag          => s!"document ended inside <{tag}>"

end UiMarkup.Markup

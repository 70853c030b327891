import LinkVetting.RuleSet

/-!
# The built-in rules

Four rules in evaluation order. They spell their classes out in ASCII, so that case variants
outside ASCII never widen what a rule lets through; only the tokens themselves ignore case.
-/

namespace LinkVetting

/-- Scheme and keyword prefixes that are never acceptable at the start of a line, in the order of
the rule that rejects them. -/
def deniedPrefixes : List String := [
  "script", "unsafe", "javascript", "vbscript", "app", "admin", "icloud-sharing",
  "icloud-vetting", "help", "aim", "facetime-audio", "applefeedback", "ibooks", "macappstore",
  "udoc", "ts", "st", "x-apple-helpbasic"]

/-- Rejects characters that end or open markup and code. -/
def forbiddenCharacters : RuleText where
  name := "forbidden_characters"
  purpose := "reject markup and code breaking characters"
  pattern := "[()\\[\\]\x7b\x7d;`'\"<>]"
  expectation := .mustNotMatch

/-- Rejects a denied prefix at the start of any line. Characters outside words do not hide it, and
a line also starts after the separators U+2028 and U+2029. -/
def denylistedScheme : RuleText where
  name := "denylisted_scheme"
  purpose := "reject dangerous scheme and keyword prefixes"
  pattern := "(?mR)(?:^|[\\x\x7b2028\x7d\\x\x7b2029\x7d])[^0-9A-Za-z_]*(?i:script|unsafe|" ++
    "javascript|vbscript|app|admin|icloud-sharing|icloud-vetting|help|aim|facetime-audio|" ++
    "applefeedback|ibooks|macappstore|udoc|ts|st|x-apple-helpbasic)"
  expectation := .mustNotMatch

/-- Lets a web address through, and otherwise only a target whose scheme is not made of letters.
The rule looks at the start of the whole candidate. -/
def schemeShape : RuleText where
  name := "scheme_shape"
  purpose := "require an http(s) URL or a target without a letter-only scheme"
  pattern := "^(?:(?i:https?:)|[^A-Za-z]|[A-Za-z+.\\-]+(?:[^A-Za-z+.\\-:]|$))"
  expectation := .mustMatch

/-- Rejects the token of a script address at any place. -/
def embeddedJavascript : RuleText where
  name := "embedded_javascript"
  purpose := "reject a javascript: token anywhere in the target"
  pattern := "(?i)javascript:"
  expectation := .mustNotMatch

def catalogue : List RuleText :=
  [forbiddenCharacters, denylistedScheme, schemeShape, embeddedJavascript]

def RuleSet.builtin : RuleSet := (RuleSet.compile catalogue).toOption.getD ⟨[]⟩

end LinkVetting

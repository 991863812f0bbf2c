import QuotedLiteral.Text.CodePoint

/-!
# Help pages

The command line has a page of help for the whole program and one for each
command.  A page opens with the usage, which also stands above usage errors.
-/

namespace QuotedLiteral

inductive Page where
  | program
  | parse
  | format
  | flags
deriving DecidableEq

namespace Page

/-- What a usage error names as its origin. -/
def title : Page → String
  | program => "strlit"
  | parse => "strlit parse"
  | format => "strlit format"
  | flags => "strlit flags"

def usageLines : Page → List String
  | program =>
      ["usage: strlit [-h] [-v] [-l] [-d DIALECT]",
       "              \x7bparse,decode,format,encode,flags\x7d ..."]
  | parse => ["usage: strlit parse [-h] [--index INDEX] [--show-index] [literal]"]
  | format => ["usage: strlit format [-h] [--unicode] [text]"]
  | flags => ["usage: strlit flags [-h] [spec]"]

def detailLines : Page → List String
  | program =>
      ["",
       "Quoted string literal codec",
       "",
       "positional arguments:",
       "  \x7bparse,decode,format,encode,flags\x7d",
       "                        Command to run",
       "    parse (decode)      Decode a quoted literal",
       "    format (encode)     Encode text as a quoted literal",
       "    flags               Describe a dialect or list presets",
       "",
       "options:",
       "  -h, --help            show this help message and exit",
       "  -v, --verbose         Increase verbosity: -v=INFO, -vvv=DEBUG",
       "  -l, --log             Enable rich log formatting (timestamps, levels)",
       "  -d DIALECT, --dialect DIALECT",
       "                        Dialect spec: presets and/or flag names joined by ','",
       "                        or '+' (default: $STRLIT_DIALECT or 'c')"]
  | parse =>
      ["",
       "positional arguments:",
       "  literal               Quoted literal (default: read stdin)",
       "",
       "options:",
       "  -h, --help            show this help message and exit",
       "  --index INDEX, -i INDEX",
       "                        Offset of the opening quote (default: 0)",
       "  --show-index          Print the closing quote index before the content"]
  | format =>
      ["",
       "positional arguments:",
       "  text           Raw text (default: stdin, minus one trailing newline)",
       "",
       "options:",
       "  -h, --help     show this help message and exit",
       "  --unicode, -u  Emit non-ASCII characters verbatim (default: $STRLIT_ASCII,",
       "                 ASCII only)"]
  | flags =>
      ["",
       "positional arguments:",
       "  spec        Dialect spec to describe",
       "",
       "options:",
       "  -h, --help  show this help message and exit"]

def usage (p : Page) : Text :=
  Text.unlines (p.usageLines.map Text.ofString)

def help (p : Page) : Text :=
  p.usage ++ Text.unlines (p.detailLines.map Text.ofString)

/-- The usage, and a line that says what is wrong with the arguments. -/
def error (p : Page) (message : Text) : Text :=
  p.usage ++ Text.ofString p.title ++ Text.ofString ": error: " ++ message ++ [.lineFeed]

end Page
end QuotedLiteral

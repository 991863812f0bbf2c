import QuotedLiteral.Notice.Tree
import QuotedLiteral.Text.Numeral

/-!
# Notice reports

A report counts the files that were checked and lists those without a notice,
in the order of their paths' code points.
-/

namespace QuotedLiteral
namespace Notice

structure Report where
  checked : Nat
  missing : List Text
deriving DecidableEq

namespace Report

def ofTree (entries : List TreeEntry) : Report :=
  let checked := entries.filter TreeEntry.isChecked
  let missing := checked.filter TreeEntry.lacksNotice
  { checked := checked.length
    missing := (missing.map fun e => e.path.toText).mergeSort Text.le }

def exitCode (r : Report) : Int :=
  if r.missing = [] then 0 else 1

def render (r : Report) : Text :=
  let counted := Text.ofString "Checked " ++ Numeral.digits 10 r.checked ++ Text.ofString " files. "
  match r.missing with
  | [] => Text.unlines [counted ++ Text.ofString "All have copyright notices."]
  | missing =>
      Text.unlines
        (Text.ofString "Missing copyright notice in:"
          :: missing.map (Text.ofString "  - " ++ ·)
          ++ [[], counted ++ Text.ofString "Missing: " ++ Numeral.digits 10 missing.length
            ++ Text.ofString "."])

end Report
end Notice
end QuotedLiteral

import LetPoly.Term

/-!
# Sample programs

Small programs that show what inference does, some of them without a type.
-/

namespace LetPoly.Samples

private def var (x : String) : Term := .ident x

/-- A function applied to several arguments. -/
private def call (f : Term) (args : List Term) : Term := args.foldl .app f

/-- The sample programs by name, in the order in which they are run. -/
def all : List (String × Term) :=
  [("identity", .app (.lam "x" (var "x")) (var "3")),
   ("factorial",
    .letrec "factorial"
      (.lam "n"
        (call (var "if")
          [.app (var "zero") (var "n"),
           var "1",
           call (var "times") [var "n", .app (var "factorial") (.app (var "pred") (var "n"))]]))
      (var "factorial")),
   ("mismatch",
    .lam "x" (call (var "pair") [.app (var "x") (var "3"), .app (var "x") (var "true")])),
   ("undefined",
    call (var "pair") [.app (var "f") (var "4"), .app (var "f") (var "true")]),
   ("polymorphic",
    .letIn "f" (.lam "x" (var "x"))
      (call (var "pair") [.app (var "f") (var "4"), .app (var "f") (var "true")])),
   ("self_application", .lam "f" (.app (var "f") (var "f"))),
   ("constant", .letIn "g" (.lam "f" (var "5")) (.app (var "g") (var "g"))),
   ("pinned",
    .lam "g"
      (.letIn "f" (.lam "x" (var "g"))
        (call (var "pair") [.app (var "f") (var "3"), .app (var "f") (var "true")]))),
   ("compose",
    .lam "f" (.lam "g" (.lam "arg" (.app (var "g") (.app (var "f") (var "arg")))))),
   ("recursive", .letrec "f" (.lam "n" (.app (var "f") (var "n"))) (var "f"))]

/-- The names of the sample programs. -/
def names : List String := all.map Prod.fst

/-- The sample program of a name. -/
def find? (name : String) : Option Term := all.lookup name

end LetPoly.Samples

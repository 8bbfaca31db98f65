namespace LeadingComment.Sample

def numbered (start : String) (count : Nat) : String :=
  String.join ((List.range count).map fun index =>
    start ++ "comment line " ++ toString index ++ "\n")

def lineCommented (count : Nat) : String :=
  numbered "// " count ++ "fn main() \x7b\x7d\n"

def blockCommented (count : Nat) : String :=
  "/*\n" ++ numbered " * " count ++ " */\nint main(void) \x7b return 0; \x7d\n"

end LeadingComment.Sample

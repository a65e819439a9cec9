import StatementClient.Bytes.Chinese
import StatementClient.Bytes.Japanese
import StatementClient.Bytes.Korean
import StatementClient.Bytes.Iso2022

/-!
# The East Asian codecs

The multibyte codecs by name, each decoding with its steps from `Chinese`, `Japanese`, `Korean`
or `Iso2022`. A fault names the codec by the name it has here.
-/

namespace StatementClient.Bytes

/-- The East Asian multibyte codecs. -/
inductive EastAsian where
  | gb2312
  | gbk
  | gb18030
  | hz
  | big5
  | cp950
  | big5hkscs
  | cp932
  | shiftJis
  | eucJp
  | shiftJis2004
  | shiftJisx0213
  | eucJis2004
  | eucJisx0213
  | eucKr
  | cp949
  | johab
  | iso2022 (scheme : Iso2022Scheme)
  deriving Inhabited

/-- The codec a module of the codec package holds, if it is one of these. -/
def EastAsian.ofModule? : String → Option EastAsian
  | "gb2312" => some .gb2312
  | "gbk" => some .gbk
  | "gb18030" => some .gb18030
  | "hz" => some .hz
  | "big5" => some .big5
  | "cp950" => some .cp950
  | "big5hkscs" => some .big5hkscs
  | "cp932" => some .cp932
  | "shift_jis" => some .shiftJis
  | "euc_jp" => some .eucJp
  | "shift_jis_2004" => some .shiftJis2004
  | "shift_jisx0213" => some .shiftJisx0213
  | "euc_jis_2004" => some .eucJis2004
  | "euc_jisx0213" => some .eucJisx0213
  | "euc_kr" => some .eucKr
  | "cp949" => some .cp949
  | "johab" => some .johab
  | "iso2022_jp" => some (.iso2022 iso2022Jp)
  | "iso2022_jp_1" => some (.iso2022 iso2022Jp1)
  | "iso2022_jp_2" => some (.iso2022 iso2022Jp2)
  | "iso2022_jp_2004" => some (.iso2022 iso2022Jp2004)
  | "iso2022_jp_3" => some (.iso2022 iso2022Jp3)
  | "iso2022_jp_ext" => some (.iso2022 iso2022JpExt)
  | "iso2022_kr" => some (.iso2022 iso2022Kr)
  | _ => none

/-- Decodes bytes with an East Asian codec. -/
def EastAsian.decode (c : EastAsian) (bs : List UInt8) : Except CodecError String :=
  match c with
  | .gb2312 => decodeStateless "gb2312" (pairStep Charset.gb2312.findHigh?) bs
  | .gbk => decodeStateless "gbk" (pairStep gbkPair) bs
  | .gb18030 => decodeStateless "gb18030" gb18030Step bs
  | .hz => runSteps "hz" hzStep false 0 "" bs
  | .big5 => decodeStateless "big5" (pairStep Charset.big5.find?) bs
  | .cp950 => decodeStateless "cp950" (pairStep cp950Pair) bs
  | .big5hkscs => decodeStateless "big5hkscs" (pairStep big5hkscsPair) bs
  | .cp932 => decodeStateless "cp932" cp932Step bs
  | .shiftJis => decodeStateless "shift_jis" shiftJisStep bs
  | .eucJp => decodeStateless "euc_jp" eucJpStep bs
  | .shiftJis2004 => decodeStateless "shift_jis_2004" (shiftJis2004Step false) bs
  | .shiftJisx0213 => decodeStateless "shift_jisx0213" (shiftJis2004Step true) bs
  | .eucJis2004 => decodeStateless "euc_jis_2004" (eucJis2004Step false) bs
  | .eucJisx0213 => decodeStateless "euc_jisx0213" (eucJis2004Step true) bs
  | .eucKr => decodeStateless "euc_kr" eucKrStep bs
  | .cp949 => decodeStateless "cp949" (pairStep cp949Pair) bs
  | .johab => decodeStateless "johab" (pairStep johabPair) bs
  | .iso2022 sch => runSteps sch.name (iso2022Step sch) {} 0 "" bs

end StatementClient.Bytes

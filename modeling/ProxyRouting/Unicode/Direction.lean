import ProxyRouting.Unicode.CodeSet

/-!
# Writing direction

The class that decides how a character takes part in text of mixed direction.  Code points that are
not assigned share the class of the one before them.
-/

namespace ProxyRouting.Unicode

/-- The direction class of every code point, filled up to three characters. -/
def directionRuns : List Run := decodeRuns 3
  "BN_9 S__1 B__1 S__1 WS_1 B__1 BN_e B__3 S__1 WS_1 ON_2 ET_3 ON_5 ES_1 CS_1 ES_1 CS_2 EN_a CS_1
  ON_6 L__1a ON_6 L__1a ON_4 BN_6 B__1 BN_1a CS_1 ON_1 ET_4 ON_4 L__1 ON_2 BN_1 ON_2 ET_2 EN_2
  ON_1 L__1 ON_3 EN_1 L__1 ON_5 L__17 ON_1 L__1f ON_1 L__1c1 ON_2 L__7 ON_e L__2 ON_e L__5 ON_9
  L__1 ON_11 NSM70 L__4 ON_2 L__8 ON_1 L__5 ON_2 L__1 ON_1 L__6e ON_1 L__8c NSM7 L__100 ON_5 ET_2
  NSM2d R__1 NSM1 R__1 NSM2 R__1 NSM2 R__1 NSM9 R__30 AN_6 ON_2 AL_1 ET_2 AL_1 CS_1 AL_1 ON_2 NSMb
  AL_30 NSM15 AN_a ET_1 AN_2 AL_3 NSM1 AL_65 NSM7 AN_1 ON_1 NSM6 AL_2 NSM2 ON_1 NSM4 AL_2 EN_a
  AL_17 NSM1 AL_1e NSM1d AL_59 NSMb AL_f R__2b NSM9 R__2 ON_4 R__3 NSM1 R__18 NSM4 R__1 NSM9 R__1
  NSM3 R__1 NSM7 R__29 NSM5 R__2 AL_30 AN_7 NSM9 AL_2a NSM18 AN_1 NSM20 L__37 NSM1 L__1 NSM1 L__4
  NSM8 L__4 NSM1 L__3 NSM7 L__a NSM2 L__1d NSM1 L__3a NSM1 L__4 NSM6 L__6 NSM1 L__14 NSM4 L__c
  ET_2 L__7 ET_1 L__2 NSM5 L__39 NSM2 L__3 NSM18 L__17 NSM2 L__3 NSM1 L__b NSM2 L__39 NSM1 L__4
  NSM8 L__4 NSM3 L__12 NSM4 L__b ET_8 L__1 NSM8 L__3a NSM1 L__2 NSM1 L__1 NSM6 L__6 NSMa L__b NSM4
  L__1c NSM1 L__3d NSM1 L__c NSM3 L__23 ON_6 ET_1 ON_6 NSM1 L__3 NSM1 L__37 NSM1 L__1 NSM3 L__5
  NSM12 L__a NSM4 L__12 ON_7 L__2 NSM1 L__3a NSM1 L__f NSM9 L__d NSM4 L__1a NSM2 L__39 NSM2 L__4
  NSM5 L__7 NSM1 L__14 NSM4 L__1b NSM1 L__48 NSM5 L__3 NSM6 L__59 NSM1 L__2 NSMb ET_1 L__7 NSM8
  L__62 NSM1 L__2 NSM9 L__b NSM8 L__48 NSM2 L__1b NSM1 L__1 NSM1 L__1 NSM1 ON_4 L__33 NSMe L__1
  NSM5 L__1 NSM2 L__5 NSM31 L__8 NSM1 L__66 NSM4 L__1 NSM6 L__1 NSM2 L__2 NSM2 L__19 NSM2 L__4
  NSM3 L__10 NSM4 L__d NSM1 L__2 NSM2 L__6 NSM1 L__f NSM1 L__2bf NSM3 L__30 ON_10 L__60 ON_1
  L__27f WS_1 L__1a ON_5 L__72 NSM3 L__1d NSM2 L__1e NSMe L__12 NSMe L__34 NSM2 L__1 NSM7 L__8
  NSM1 L__2 NSMb L__7 ET_1 L__1 NSM3 L__10 ON_1b NSM3 BN_1 NSM1 L__75 NSM2 L__22 NSM1 L__76 NSM3
  L__4 NSM2 L__9 NSM1 L__6 NSM7 ON_6 L__98 ON_22 L__17 NSM2 L__2 NSM3 L__38 NSM1 L__1 NSM9 L__1
  NSM1 L__2 NSM8 L__6 NSMd L__30 NSM54 L__30 NSM1 L__1 NSM5 L__1 NSM1 L__5 NSM1 L__28 NSM9 L__c
  NSM2 L__20 NSM4 L__2 NSM2 L__1 NSM3 L__38 NSM1 L__1 NSM2 L__3 NSM1 L__1 NSM3 L__3a NSM8 L__2
  NSM5 L__95 NSM3 L__1 NSMd L__1 NSM7 L__4 NSM1 L__6 NSM1 L__3 NSM2 L__c6 NSM40 L__1bd ON_1 L__1
  ON_3 L__b ON_3 L__d ON_3 L__d ON_5 L__b ON_3 WS_b BN_3 L__1 R__1 ON_18 WS_1 B__1 LRE1 RLE1 PDF1
  LRO1 RLO1 CS_1 ET_5 ON_f CS_1 ON_1a WS_1 BN_6 LRI1 RLI1 FSI1 PDI1 BN_6 EN_1 L__3 EN_6 ES_2 ON_3
  L__1 EN_a ES_2 ON_4 L__10 ET_30 NSM30 ON_2 L__1 ON_4 L__1 ON_2 L__a ON_1 L__1 ON_3 L__5 ON_6
  L__1 ON_1 L__1 ON_1 L__1 ON_1 L__4 ET_1 L__b ON_2 L__4 ON_5 L__5 ON_4 L__2 ON_10 L__29 ON_89
  ES_1 ET_1 ON_122 L__45 ON_1a L__1 ON_f2 EN_14 L__4e ON_1c2 L__1 ON_153 L__100 ON_300 L__e5 ON_6
  L__4 NSM3 L__7 ON_7 L__7f NSM1 L__60 NSM20 ON_200 WS_1 ON_4 L__3 ON_19 L__9 NSM4 L__2 ON_1 L__5
  ON_2 L__5 ON_4 L__58 NSM2 ON_2 L__3 ON_1 L__5a ON_1 L__c4 ON_30 L__2d ON_3 L__30 ON_10 L__1c
  ON_3 L__32 ON_f L__c ON_4 L__a7 ON_4 L__63 ON_2 L__1f ON_1 L__19c0 ON_40 L__5690 ON_40 L__13d
  ON_3 L__5f NSM4 ON_1 NSMa ON_2 L__1e NSM2 L__50 NSM2 L__e ON_22 L__66 ON_1 L__79 NSM1 L__3 NSM1
  L__4 NSM1 L__19 NSM2 L__1 ON_4 NSM4 L__8 ET_8 L__34 ON_c L__44 NSMa L__12 NSM12 L__d NSM1 L__26
  NSM8 L__19 NSMb L__2e NSM3 L__30 NSM1 L__2 NSM4 L__2 NSM2 L__27 NSM1 L__43 NSM6 L__2 NSM2 L__2
  NSMb L__3 NSM1 L__8 NSM1 L__2f NSM1 L__33 NSM1 L__1 NSM3 L__2 NSM2 L__5 NSM2 L__1 NSM1 L__2a
  NSM2 L__8 NSMb L__69 ON_6 L__75 NSM1 L__2 NSM1 L__4 NSM3 L__4f2d R__1 NSM1 R__a ES_1 R__26 AL_73
  ON_10 AL_16b ON_12 AL_40 ON_2 AL_36 ON_8 BN_20 AL_d ON_3 NSM10 ON_10 NSM10 ON_20 CS_1 ON_1 CS_2
  ON_1 CS_1 ON_9 ET_1 ON_2 ES_2 ON_5 ET_2 ON_5 AL_8f BN_2 ON_2 ET_3 ON_5 ES_1 CS_1 ES_1 CS_2 EN_a
  CS_1 ON_6 L__1a ON_6 L__1a ON_b L__7a ET_2 ON_3 ET_3 ON_16 BN_2 L__101 ON_1 L__3e ON_4d L__3
  ON_40 L__2d NSM83 L__60 NSM1 EN_1f L__76 NSMa L__480 R__11f ON_1 R__e1 NSMf R__28 NSM8 R__a5
  NSM6 R__4e ON_7 R__1c0 AL_24 NSMc AN_10 R__29 NSM5 R__20 ON_d2 AN_20 R__2b NSM2 R__15 AL_f ON_29
  NSM6 R__30 AL_16 NSMb AL_1f R__12 NSM4 R__7a L__1 NSM1 L__36 NSMf L__b ON_14 L__a NSM1 L__2 NSM2
  L__a NSM3 L__31 NSM4 L__2 NSM2 L__7 NSMb L__33 NSM3 L__24 NSM5 L__1 NSM9 L__3d NSM1 L__c NSM2
  L__34 NSM9 L__a NSM4 L__2 NSM1 L__5f NSM3 L__2 NSM1 L__1 NSM2 L__6 NSM1 L__2 NSM3f L__5f NSM1
  L__3 NSMd L__10 NSM2 L__39 NSM2 L__3 NSM1 L__25 NSM1a L__3b NSM7 L__c NSM1 L__1 NSM1 L__1 NSM1
  L__e NSM1f L__38 NSM8 L__2 NSM3 L__1 NSM1 L__17 NSM1 L__54 NSM6 L__1 NSM1 L__4 NSM2 L__1 NSM2
  L__ee NSM6 L__4 NSM2 L__1 NSM2 L__1b NSM24 L__33 NSM8 L__2 NSM1 L__1 NSM2 L__1f ON_20 L__2b NSM1
  L__1 NSM1 L__2 NSM6 L__1 NSM1 L__65 NSM3 L__2 NSM4 L__1 NSM9 L__ff NSM9 L__1 NSM2 L__100 NSM2
  L__1 NSM1 L__4 NSM1 L__90 NSM8 L__4 NSM1 L__20 NSM6 L__2 NSM2 L__28 NSM6 L__2 NSM4 L__8 NSM9
  L__1 NSM6 L__2 NSM3 L__2e NSMd L__1 NSM2 L__c6 NSM1 L__1 NSM3 L__1 NSM1 L__c9 NSMe L__54 NSM17
  L__1 NSM7 L__1 NSM2 L__1 NSM4b L__31 NSM15 L__1 NSM9 L__40 NSM3 L__2 NSM1 L__1 NSM1 L__15b NSM2
  L__b NSM2 L__34 NSM8 L__2 NSM1 L__1 NSM1 L__17 NSM56 L__25 ON_8 ET_4 ON_1e L__1441 NSM1 L__6
  NSM19 L__2cbe NSMc L__3 NSM3 L__9c0 NSM5 L__3b NSM7 L__418 NSM1 L__3f NSM4 L__4f ON_1 L__1 NSMc
  L__4cad NSM2 L__1 BN_f60 ON_f0 L__a ON_206 NSM50 L__217 NSM3 L__9 BN_8 NSM8 L__2 NSM7 L__1e NSM4
  L__3b ON_59 NSM3 ON_7b L__40 ON_60 L__37b ON_1 L__39 ON_1 L__39 ON_1 L__39 ON_1 L__39 ON_1 L__a
  EN_32 L__200 NSM37 L__4 NSM32 L__8 NSM1 L__e NSM1 L__16 NSM465 L__100 NSM30 L__5f NSM71 L__30
  NSM7 L__177 NSM12 L__2c NSM4 L__f ET_1d1 L__1c NSM4 L__fe NSM2 L__f3 NSM1 L__2 NSM1 L__7 NSM2
  L__5 NSM9 L__102 R__d0 NSM30 R__44 NSM7 R__326 AL_27f ON_210 EN_b ON_5 L__1f ON_1 L__3a ON_6
  L__3d ON_39 L__7a ON_990 EN_a ON_404 BN_2 L__fffe BN_2 L__fffe BN_a0102 NSMfefe BN_2 L__fffe
  BN_2 L__fffe BN_2"

/-- The direction class of a code point. -/
def directionClass (n : Nat) : List Char :=
  match runAt directionRuns n with
  | some name => name.filter (· != '_')
  | none => ['L']

end ProxyRouting.Unicode

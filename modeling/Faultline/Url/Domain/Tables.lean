import Faultline.Text.Table

/-! # Tables of domain characters

Which characters a domain may hold, what stands for those that it may hold only in another form, and
what their direction, their joining and their composition say about the labels that hold them.
-/

namespace Faultline.Url.Domain

open Text

def ignored : List (Nat × Nat) :=
  Table.ranges
  "4t 1,iq 1,2s0 2,191 2,2f 5,1kw 1,2d 5,a 6,3cq 1,14f0 g,73 1,4h 1,11c0 4,443 8,h47h 6o"

/-- Runs of characters that move together: how many they are, in strides of what, and what stands
    for the first of them. -/
def replacedRuns : List (Nat × List Nat) :=
  Table.rows
  "1t q 1 2p,3j n 1 68,o 7 1 6w,14 o 2 75,1l 3 2 8q,8 4 2 8y,9 n 2 97,1b 3 2 ai,13 3 2 bl,
   19 8 2 cu,h 9 2 db,q k 2 e1,16 9 2 f7,10 5 2 g7,8y 3 1 q5,9 h 1 q9,i 9 1 qr,1h c 2 rd,
   11 3 1 or,3 g 1 uo,g w 1 ts,28 h 2 v5,16 r 2 wb,1j 7 2 xu,f 1c 2 y9,2p 12 1 129,29b 12 1 8w0,
   ns 6 1 3xs,1p4 17 1 3bk,19 3 1 3ct,38 5 2 2t,3 4 2 2w,15 3 1 qa,1z 3 1 h4,a 4 1 he,e 3 1 i8,
   1w 23 2 5xd,4g 1c 2 61t,2w 8 1 64g,g 6 1 64w,g 8 1 65c,g 8 1 65s,g 6 1 668,h 4 2 66p,f 8 1 674,
   7g 6 1 1g,c a 1 1c,m 4 1 2z,3n 3 1 34,s 4 1 15c,mj 9 1 1d,2e q 1 2p,q q 1 2p,1f4 1c 1 8q8,
   2v 3 2 8rs,p 1e 2 8sh,xj 3 1 3cz,3 6 1 3hs,7 3 1 3d2,4 a 1 3d5,a l 1 3fl,15 5 1 3e3,c 3 1 3fb,
   67 3 1 3d1,6 5 1 3da,3f 6 1 9my,a 5 1 9ni,7 6 1 9ns,6 4 1 9nz,mrp n 2 wu9,1s e 2 ww1,
   4i 7 2 x0j,g v 2 x0z,24 5 2 x33,o a 2 x3r,u 8 2 x4l,o 8 2 x59,pw 28 1 3vk,fqs 3 1 15n,
   m5 4 1 9ho,5c w 1 x,w q 1 2p,q 10 1 2j,22 6 1 9my,a 5 1 9ni,7 6 1 9ns,h 3 1 3cz,3 6 1 3hs,
   7 3 1 3d2,4 a 1 3d5,d 6 1 3fl,8 6 1 3fr,8 6 1 3fx,8 3 1 3g3,f 4 1 6mo,t3 14 1 1fe0,
   4w 10 1 1fiw,5c j 2 1fo7,1 5 2 1fo8,c 7 2 1fok,g 3 2 1fp0,fd 3 1 cg,y2 1f 1 1h34,5s m 1 1h80,
   28g w 1 1jgg,gww w 1 20dc,2o p 1 20fv,ily q 1 2p,q a 1 1c,1e8 q 1 2p,q q 1 2p,q q 1 2p,
   q d 2 2p,1 3 2 2q,8 9 2 2y,h q 1 2p,q q 1 2p,13 4 1 32,5 8 1 37,8 4 1 2p,5 b 2 2u,3 3 2 2x,
   8 5 2 35,a q 1 2p,q q 1 2p,t 4 1 2s,6 8 1 2y,9 7 1 37,8 q 1 2p,t 4 1 2s,5 5 1 2x,a 7 1 37,
   8 q 1 2p,q q 1 2p,q q 1 2p,q q 1 2p,q q 1 2p,q q 1 2p,q q 1 2p,q q 1 2p,q q 1 2p,q q 1 2p,
   q q 1 2p,q q 1 2p,q q 1 2p,u h 1 q9,i 7 1 qr,8 h 1 q9,i 7 1 qr,e h 1 q9,i 7 1 qr,8 h 1 q9,
   i 7 1 qr,e h 1 q9,i 7 1 qr,8 h 1 q9,i 7 1 qr,e h 1 q9,i 7 1 qr,8 h 1 q9,i 7 1 qr,e h 1 q9,
   i 7 1 qr,8 h 1 q9,i 7 1 qr,i a 1 1c,a a 1 1c,a a 1 1c,a a 1 1c,a a 1 1c,1mi 9 1 ts,9 3 1 u2,
   3 b 1 u6,l 9 1 ts,e 6 1 ub,1pd y 1 2oma,zu 4 1 18j,w 4 1 18j,2p 3 1 18k,w 3 1 18k,hx q 1 2p,
   24g a 1 1c"

def replaced : List (Nat × List Nat) :=
  Table.rows
  "4g w,8 w lk,2 2p,5 w lg,3 1e,1 1f,1 w ld,1 qk,3 w mf,1 1d,1 33,2 1d 6dg 1g,1 1d 6dg 1e,
   1 1f 6dg 1g,36 2x lj,2 2x 2y,1 2x 2y,1 8l,2 8n,9 30 53,1 30 53,9 jg 32,1b 73,7 37,2 gj,1 ar,
   2 at,2 gk,1 aw,2 gm,1 gn,1 b0,3 d9,1 gp,1 gr,1 b6,2 gw,1 gz,2 h5,1 h4,1 bd,4 hb,1 he,2 hh,7 hs,
   1 bs,2 hv,3 bx,2 i0,1 c0,2 i2,1 i3,1 c4,2 c6,2 ia,1 c9,4 cd,8 2s am,1 2s am,1 2s am,1 30 2y,
   1 30 2y,1 30 2y,1 32 2y,1 32 2y,1 32 2y,11 2s 3e,1 2s 3e,1 2s 3e,1 dx,2 b9,1 cf,15 bi,q 8rp,
   1 fw,2 be,1 8rq,3 g2,2 ao,1 i1,1 i4,2z 2w,1 h2,1 2y,1 36,1 hl,1 hn,1 ht,1 3b,1 3d,w w li,
   1 w lj,1 w lm,1 w mg,1 w lf,1 w ln,3 gz,1 30,1 37,1 3c,1 id,2k lc,1 ld,2 lv,1 lk ld,1 qh,17 oh,
   2 oj,2 jd,2 on,4 w qh,4 1n,1 s3,5 w ld,1 w lk ld,1 q4,1 53,5 r0,2 r1,1 r2,1s rb,1 qa,1 qg,1 qt,
   1 r1,1 qz,1 qu,1 qo,q qi,1 qp,1 qr,2 qg,1 qd,2 s8,2 qr,1 sb,5i y7,5j 12d 136,6m 17r 19w,
   1 18o 19w,1 1c7 19w,1 18q 19w,kg 1sl 1to,1 1sm 1to,1 1sn 1to,1 1ss 1to,1 1sx 1to,1 1sy 1to,
   1 1t7 1to,1 1tb 1to,3h 1wh 1x8,1 1wi 1x8,2 1wv 1x8,2c 20i 20s,3 20o 20s,z 1zq 20s,1 1zr 20s,
   1 1zw 20s,3 20b 20s,72 275 27w,1 276 27w,k6 2tp 2sy,3k 2x9 2wi,15 2wb 2vt,1 2wb 2w1,1b 2yz,
   1j 30i 33r,a 30s 33r,5 30x 33r,5 312 33r,5 317 33r,d 30g 33p,a 31t 31u,2 31t 31w,1 33m 328,
   1 33m 31t 328,1 33n 328,1 33n 31t 328,8 31t 328,i 32q 33r,a 330 33r,5 335 33r,5 33a 33r,
   5 33f 33r,d 32o 33p,7i 8x3,6 8x9,1b 3bw,29w tu,1 tw,1 u6,1 u9,1 ua,1 ua,1 ui,1 v7,1 wuj,1 5my,
   4j 2p,1 6e,1 2q,2 2s,2 d9,a 33,1 f7,1 34,1 36,1 38,1 39,1 3b,1 2p,1 gg,1 gh,1 5qa,1 2q,1 2s,
   1 2t,1 gp,1 gr,1 gs,1 2v,2 2z,1 31,1 97,1 33,1 gk,1 5qu,1 5qv,1 34,1 38,1 39,1 5r1,1 hb,1 3a,
   1 5r9,4 qu,1 qv,1 2x,1 36,1 39,1 3a,1 qa,1 qb,1 qp,1 qu,1 qv,e u5,z gi,1 2r,1 gl,1 6o,1 gs,
   1 2u,1 gv,1 gx,1 h1,4 5tn,1 il,1 h9,1 5tx,1 in,1 hd,1 hc,5 hk,1 hu,1 hv,1 bv,1 i1,1 i2,1 5r0,
   1 i3,1 i4,1 3e,4 qg,63 2p ji,1 601,3 67,5v q4,2 q5,2 q6,2 q7,2 r0,2 r1,2 r2,3 64g qh,1 64h qh,
   1 64i qh,1 64j qh,1 64k qh,1 64l qh,1 64m qh,1 64n qh,1 64g qh,1 64h qh,1 64i qh,1 64j qh,
   1 64k qh,1 64l qh,1 64m qh,1 64n qh,1 65c qh,1 65d qh,1 65e qh,1 65f qh,1 65g qh,1 65h qh,
   1 65i qh,1 65j qh,1 65c qh,1 65d qh,1 65e qh,1 65f qh,1 65g qh,1 65h qh,1 65i qh,1 65j qh,
   1 674 qh,1 675 qh,1 676 qh,1 677 qh,1 678 qh,1 679 qh,1 67a qh,1 67b qh,1 674 qh,1 675 qh,
   1 676 qh,1 677 qh,1 678 qh,1 679 qh,1 67a qh,1 67b qh,3 67k qh,1 q9 qh,1 q4 qh,3 69i qh,1 69c,
   1 69d,1 67k,1 q4,1 q9 qh,1 w lv,1 qh,1 w lv,1 w n6,1 w lk n6,1 67o qh,1 qf qh,1 q6 qh,3 69y qh,
   1 67m,1 q5,1 67o,1 q6,1 qf qh,1 w lv lc,1 w lv ld,1 w lv n6,4 pc,5 6a8,1 6a9,1 67q,1 q7,
   2 w lw lc,1 w lw ld,1 w lw n6,4 q8,5 6ao,1 6ap,1 67u,1 r1,1 6at,1 w lk lc,1 w lk ld,1 2o,
   3 67w qh,1 qx qh,1 r2 qh,3 6ba qh,1 67s,1 r0,1 67w,1 r2,1 qx qh,1 w ld,1 w lw,2 w,1 w,1 w,1 w,
   1 w,1 w,1 w,1 w,1 w,1 w,1 w,7 6c0,6 w mr,o w,4 6cy 6cy,1 6cy 6cy 6cy,2 6d1 6d1,1 6d1 6d1 6d1,
   5 x x,2 w lh,9 1r 1r,1 1r x,1 x 1r,e 6cy 6cy 6cy 6cy,8 w,h 1c,1 2x,9 17,1 6qa,1 1p,1 14,1 15,
   1 32,b 17,1 6qa,1 1p,1 14,1 15,2 2p,1 2t,1 33,1 3c,1 gp,1 2w,5 34,1 37,1 38,c 36 37,
   2g 2p 1b 2r,1 2p 1b 37,1 2r,1 4w 2r,2 2r 1b 33,1 2r 1b 39,1 gr,2 4w 2u,1 2v,1 2w,1 2w,1 2w,
   1 2w,1 87,1 2x,1 2x,1 30,1 30,2 32,1 32 33,6 36,1 36,3 37 31,1 38 2t 30,1 38 31,2 3e,2 qx,2 3e,
   2 2z,1 6d,1 2q,1 2r,2 2t,1 2t,1 2u,1 6ku,1 31,1 33,5 2x,2 2u 2p 3c,1 qo,1 qb,1 qb,1 qo,1 6q9,
   5 2s,1 2s,1 2t,1 2x,1 2y,7 1d 6dg 1j,1 1d 6dg 1l,1 1d 6dg 1d 1c,1 1d 6dg 1f,1 1e 6dg 1f,
   1 1d 6dg 1h,1 1e 6dg 1h,1 1f 6dg 1h,1 1g 6dg 1h,1 1d 6dg 1i,1 1h 6dg 1i,1 1d 6dg 1k,
   1 1f 6dg 1k,1 1h 6dg 1k,1 1j 6dg 1k,1 1d 6dg,1 2x,1 2x 2x,1 2x 2x 2x,1 2x 3a,1 3a,1 3a 2x,
   1 3a 2x 2x,1 3a 2x 2x 2x,1 2x 3c,1 3c,1 3c 2x,1 3c 2x 2x,1 30,1 2r,1 2s,1 31,1 2x,1 2x 2x,
   1 2x 2x 2x,1 2x 3a,1 3a,1 3a 2x,1 3a 2x 2x,1 3a 2x 2x 2x,1 2x 3c,1 3c,1 3c 2x,1 3c 2x 2x,1 30,
   1 2r,1 2s,1 31,4 6mc,6 1c 6dg 1f,4j 6qz 6qz,1 6qz 6qz 6qz,2 6r2 6r2,1 6r2 6r2 6r2,6x 9hk,1 9hl,
   8v 1d 1c,1 1d 1d,1 1d 1e,1 1d 1f,1 1d 1g,1 1d 1h,1 1d 1i,1 1d 1j,1 1d 1k,1 1d 1l,1 1e 1c,
   1 14 1d 15,1 14 1e 15,1 14 1f 15,1 14 1g 15,1 14 1h 15,1 14 1i 15,1 14 1j 15,1 14 1k 15,
   1 14 1l 15,1 14 1d 1c 15,1 14 1d 1d 15,1 14 1d 1e 15,1 14 1d 1f 15,1 14 1d 1g 15,1 14 1d 1h 15,
   1 14 1d 1i 15,1 14 1d 1j 15,1 14 1d 1k 15,1 14 1d 1l 15,1 14 1e 1c 15,l 14 2p 15,1 14 2q 15,
   1 14 2r 15,1 14 2s 15,1 14 2t 15,1 14 2u 15,1 14 2v 15,1 14 2w 15,1 14 2x 15,1 14 2y 15,
   1 14 2z 15,1 14 30 15,1 14 31 15,1 14 32 15,1 14 33 15,1 14 34 15,1 14 35 15,1 14 36 15,
   1 14 37 15,1 14 38 15,1 14 39 15,1 14 3a 15,1 14 3b 15,1 14 3c 15,1 14 3d 15,1 14 3e 15,1h 1c,
   10i 6qz 6qz 6qz 6qz,2w 1m 1m 1p,1 1p 1p,1 1p 1p 1p,2u 8gt mw,as 8rl,2 h7,1 5tp,1 hp,9 gh,1 hd,
   1 gg,1 gi,2 8s3,3 8s6,7 2y,1 3a,1 fz,1 g0,30 8vg,2 8vi,5 8vn,3h 8yp,8g lal,2c vj3,d feo,1 ffs,
   1 fg6,1 fgf,1 fh5,1 fid,1 fik,1 fj4,1 fju,1 g1r,1 g2t,1 g2z,1 g3m,1 g46,1 g4r,1 g68,1 g6t,
   1 g74,1 gbf,1 ge1,1 get,1 gey,1 gfs,1 gg1,1 ggs,1 gh5,1 ghu,1 gja,1 gjs,1 gkj,1 h5j,1 h7j,
   1 hkb,1 hky,1 hl6,1 hlh,1 hlz,1 ho3,1 i1c,1 i2o,1 i60,1 i6n,1 i76,1 i7s,1 i9a,1 i9d,1 ijf,
   1 ijp,1 ik1,1 ike,1 inm,1 inu,1 inz,1 ir8,1 iri,1 irv,1 is3,1 its,1 iu9,1 iur,1 iwz,1 jd4,
   1 jee,1 jez,1 jzj,1 jzo,1 k1z,1 k2f,1 k2s,1 k3d,1 k4g,1 k4l,1 kc0,1 kco,1 kdk,1 l5s,1 l7m,
   1 l89,1 l9v,1 laj,1 las,1 laz,1 lcf,1 lck,1 ldg,1 m7f,1 mju,1 mk6,1 mkb,1 mkf,1 mkn,1 ml5,
   1 ml7,1 mng,1 mtg,1 mtl,1 n30,1 n3a,1 n4o,1 n4v,1 n54,1 n5c,1 n7v,1 n82,1 nee,1 nel,1 nfy,
   1 ngf,1 nhq,1 nob,1 noi,1 noz,1 ny2,1 o1k,1 o1q,1 o6s,1 o97,1 oah,1 okz,1 ooo,1 p4m,1 p5d,
   1 p6y,1 p8d,1 pa9,1 pak,1 paq,1 pbn,1 pdr,1 pe1,1 pnn,1 pnu,1 po3,1 poc,1 pos,1 pp7,1 ppb,
   1 pri,1 prm,1 prs,1 qj1,1 qjv,1 qww,1 qx8,1 qxv,1 r5q,1 r63,1 r82,1 r9c,1 rp3,1 rpi,1 rpx,
   1 rqw,1 rrx,1 rxg,1 rxs,1 rzn,1 s6j,1 s7e,1 sd7,1 sds,1 sdx,1 sk1,1 sp5,1 ssm,1 sss,1 ssx,
   1 tiv,1 tj4,1 tng,1 trq,1 trt,1 tt4,1 tw1,1 twe,1 twi,1 twp,1 tzf,1 u0d,1 u0j,1 u0x,1 u5k,
   1 u6z,1 u73,1 uc6,1 uc9,1 ucs,1 ujs,1 ul4,1 ulb,1 un9,1 unj,1 unm,1 unw,1 uoq,1 uzp,1 vat,
   1 vb3,1 vc5,1 vcr,1 vcz,1 vd9,1 vdd,1 veh,1 vel,1 vf2,1 vf7,1 vfk,1 vgb,1 vgq,1 vgy,1 vil,
   1 vj0,1 vj4,17 w,2 1a,1g 9hu,2 gg1,1 gg4,1 gg5,2p w 9ll,1 w 9lm,3 9l4 9l6,2o 9mb 9mw,1e 3cw,
   1 3cx,1 3hm,1 3cy,1 3ho,1 3hp,a 3dm,4 3dt,x 3dg,1 3dh,1 3if,1 3ig,1 3ik,1 3im,1 3ir,1 3iv,
   1 3ix,1 3do,1 3j1,1 3j3,1 3dp,1 3dq,1 3ds,1 3du,1 3dv,1 3dz,1 3e1,6 3ea,1 3ee,1 3eo,1 3ev,
   1 3f0,1 3jl,1 3jm,4 3gk,1 3gl,1 3go,1 3gx,1 3gy,1 3h0,1 3ha,1 3hd,4 feo,1 fik,1 fex,1 h5n,
   1 fey,1 ffx,1 fez,1 n5e,1 fh5,1 ffd,1 fep,1 hm1,1 h80,1 fju,2p 14 3cw 15,1 14 3cy 15,
   1 14 3cz 15,1 14 3d1 15,1 14 3d2 15,1 14 3d3 15,1 14 3d5 15,1 14 3d7 15,1 14 3d8 15,
   1 14 3da 15,1 14 3db 15,1 14 3dc 15,1 14 3dd 15,1 14 3de 15,1 14 xz4 15,1 14 yvs 15,
   1 14 zc4 15,1 14 108s 15,1 14 10p4 15,1 14 115g 15,1 14 1224 15,1 14 12ys 15,1 14 13f4 15,
   1 14 14bs 15,1 14 14s4 15,1 14 158g 15,1 14 15os 15,1 14 1654 15,1 14 13p8 15,
   1 14 1350 13ic 15,1 14 1350 16f8 15,2 14 feo 15,1 14 fik 15,1 14 fex 15,1 14 h5n 15,
   1 14 fis 15,1 14 g31 15,1 14 fer 15,1 14 g2z 15,1 14 fh9 15,1 14 gg1 15,1 14 kco 15,
   1 14 m7f 15,1 14 ldg 15,1 14 kdk 15,1 14 ssx 15,1 14 h7j 15,1 14 k4l 15,1 14 kkq 15,
   1 14 kcp 15,1 14 ny6 15,1 14 glp 15,1 14 mm1 15,1 14 rs1 15,1 14 nz1 15,1 14 gc4 15,
   1 14 fkz 15,1 14 gos 15,1 14 i1y 15,1 14 nhf 15,1 14 flt 15,1 14 rt3 15,1 14 ggk 15,
   1 14 nzh 15,1 14 fm9 15,1 14 pnu 15,1 14 po3 15,1 gun,1 inw,1 k1z,1 oen,9 34 38 2t,1 1e 1d,
   1 1e 1e,1 1e 1f,1 1e 1g,1 1e 1h,1 1e 1i,1 1e 1j,1 1e 1k,1 1e 1l,1 1f 1c,1 1f 1d,1 1f 1e,
   1 1f 1f,1 1f 1g,1 1f 1h,1 3cw,1 3cy,1 3cz,4 3d5,1 3d7,1 3d8,6 xz4,1 yvs,1 zc4,1 108s,1 10p4,
   1 115g,1 1224,1 12ys,1 13f4,1 14bs,1 14s4,1 158g,1 15os,1 1654,1 14c8 y5c,1 13p8 13dk,1 138w,
   2 feo,1 fik,1 fex,1 h5n,1 fis,1 g31,1 fer,1 g2z,1 fh9,1 gg1,1 kco,1 m7f,1 ldg,1 kdk,1 ssx,
   1 h7j,1 k4l,1 kkq,1 kcp,1 ny6,1 glp,1 mm1,1 rs1,1 nz1,1 gc4,1 o2g,1 n5j,1 ho3,1 six,1 g16,
   1 ghc,1 lig,1 u11,1 fm9,1 g49,1 l7n,1 fey,1 ffx,1 fez,1 ijq,1 gkz,1 gfv,1 i3b,1 i1y,1 nhf,
   1 flt,1 rt3,1 ggk,1 hlo,1 1f 1i,1 1f 1j,1 1f 1k,1 1f 1l,1 1g 1c,1 1g 1d,1 1g 1e,1 1g 1f,
   1 1g 1g,1 1g 1h,1 1g 1i,1 1g 1j,1 1g 1k,1 1g 1l,1 1h 1c,1 1d kco,1 1e kco,1 1f kco,1 1g kco,
   1 1h kco,1 1i kco,1 1j kco,1 1k kco,1 1l kco,1 1d 1c kco,1 1d 1d kco,1 1d 1e kco,1 2w 2v,
   1 2t 36 2v,1 2t 3a,1 30 38 2s,1 9lu,1 9lw,1 9ly,1 9m0,1 9m2,1 9m3,1 9m5,1 9m7,1 9m9,1 9mb,
   1 9md,1 9mf,1 9mh,1 9mj,1 9ml,1 9mn,1 9mp,1 9ms,1 9mu,1 9mw,7 9n6,1 9n9,1 9nc,1 9nf,6 9no,
   1 9nq,b fl0 gp8,1 9lu 9n5 9oc 9mw,1 9lu 9nv 9n9 9lt,1 9lu 9o3 9ne 9lu,1 9lu 9oc 9nv,
   1 9lw 9mz 9o3 9m8,1 9lw 9o3 9mp,1 9ly 9m1 9o3,1 9m0 9mh 9m7 9oc 9mx,1 9m0 9oc 9m3 9oc,
   1 9m2 9o3 9mh,1 9m2 9oc 9nk,1 9m3 9lw 9nu,1 9m3 9nt 9mr 9mw,1 9m3 9nx 9nu 9oc,1 9m4 9nx 9o3,
   1 9m4 9o3 9ni,1 9m6 9m4,1 9m6 9mz 9oc,1 9m5 9np 9nu 9oc,1 9m6 9nv 9mo 9oc,1 9m5 9nx,
   1 9m5 9nx 9m8 9nt 9nk,1 9m5 9nx 9nl 9oc 9mw 9nv,1 9m5 9nx 9nz 9mr 9mw,1 9m8 9nt 9nk,
   1 9m8 9nt 9nk 9mw 9o3,1 9m7 9nv 9mk 9lw 9nx,1 9m7 9nx 9oc 9n1,1 9m9 9oc 9mh,1 9mb 9nv 9my,
   1 9mb 9oc 9nh,1 9md 9lw 9m7 9nv,1 9md 9o3 9mp 9oc 9nk,1 9mf 9nu 9o3 9m8,1 9mj 9o3 9mp,
   1 9mj 9o3 9mw,1 9mo 9oc 9mh,1 9mv 9mf,1 9mx 9nv,1 9mw 9o3,1 9my 9n2,1 9n2 9mr 9mw,
   1 9n3 9lw 9ms,1 9n5 9oc 9mj 9o3 9mw,1 9n5 9oc 9ms,1 9n4 9oc 9nw 9nv,1 9n8 9lu 9mh 9mw 9nv,
   1 9n8 9m7 9nv,1 9n8 9mb,1 9n7 9nv,1 9n9 9lt 9nt 9mr 9mx,1 9n9 9lv 9oc 9mw,
   1 9na 9mr 9mf 9lz 9nv,1 9n9 9nt 9o3,1 9nc 9m7 9mn 9oc 9nv,1 9ne 9ml,1 9ne 9mz 9n6,
   1 9nc 9nv 9ms,1 9ne 9o3 9mh,1 9ne 9oc 9mg,1 9nd 9oc 9mn,1 9nh 9lw 9o3 9mw,1 9ng 9nv 9mw,
   1 9nf 9o3,1 9nh 9o3 9mx,1 9nf 9oc 9nv,1 9nf 9oc 9o3,1 9ni 9lw 9m7 9nx,1 9ni 9lw 9nv,
   1 9ni 9mr 9n3,1 9ni 9nv 9m7,1 9ni 9o3 9mf 9nr 9o3,1 9nj 9m7 9nx 9o3,1 9nj 9nu,
   1 9nj 9nu 9n4 9oc 9nv,1 9nl 9m4,1 9nl 9m4 9mw 9o3,1 9nl 9oc 9mw 9nv,1 9no 9oc 9mx,
   1 9no 9oc 9nv,1 9nq 9lu 9o3,1 9nu 9mr 9mw 9nv,1 9nu 9nt,1 9nv 9n8 9oc,1 9nv 9oc 9na 9nv,
   1 9nw 9nk,1 9nw 9o3 9mw 9ma 9o3,1 9nz 9mr 9mw,1 1c m9l,1 1d m9l,1 1e m9l,1 1f m9l,1 1g m9l,
   1 1h m9l,1 1i m9l,1 1j m9l,1 1k m9l,1 1l m9l,1 1d 1c m9l,1 1d 1d m9l,1 1d 1e m9l,1 1d 1f m9l,
   1 1d 1g m9l,1 1d 1h m9l,1 1d 1i m9l,1 1d 1j m9l,1 1d 1k m9l,1 1d 1l m9l,1 1e 1c m9l,
   1 1e 1d m9l,1 1e 1e m9l,1 1e 1f m9l,1 1e 1g m9l,1 2w 34 2p,1 2s 2p,1 2p 39,1 2q 2p 36,1 33 3a,
   1 34 2r,1 2s 31,1 2s 31 1e,1 2s 31 1f,1 2x 39,1 inn jdc,1 k6l gp8,1 hlz l7n,1 k5q lh7,
   1 kkq irz fmi ny6,1 34 2p,1 32 2p,1 qk 2p,1 31 2p,1 2z 2p,1 2z 2q,1 31 2q,1 2v 2q,1 2r 2p 30,
   1 2z 2r 2p 30,1 34 2u,1 32 2u,1 qk 2u,1 qk 2v,1 31 2v,1 2z 2v,1 2w 3e,1 2z 2w 3e,1 31 2w 3e,
   1 2v 2w 3e,1 38 2w 3e,1 qk 30,1 31 30,1 2s 30,1 2z 30,1 2u 31,1 32 31,1 qk 31,1 31 31,1 2r 31,
   1 2z 31,1 31 31 1e,1 2r 31 1e,1 31 1e,1 2z 31 1e,1 31 31 1f,1 2r 31 1f,1 31 1f,1 2z 31 1f,
   1 31 6qd 37,1 31 6qd 37 1e,1 34 2p,1 2z 34 2p,1 31 34 2p,1 2v 34 2p,1 36 2p 2s,
   1 36 2p 2s 6qd 37,1 36 2p 2s 6qd 37 1e,1 34 37,1 32 37,1 qk 37,1 31 37,1 34 3a,1 32 3a,1 qk 3a,
   1 31 3a,1 2z 3a,1 31 3a,1 34 3b,1 32 3b,1 qk 3b,1 31 3b,1 2z 3b,1 31 3b,1 2z qx,1 31 qx,
   2 2q 35,1 2r 2r,1 2r 2s,1 2r 6qd 2z 2v,2 2s 2q,1 2v 3d,1 2w 2p,1 2w 34,1 2x 32,1 2z 2z,1 2z 31,
   1 2z 38,1 30 31,1 30 32,1 30 33 2v,1 30 3c,1 31 2q,1 31 2x 30,1 31 33 30,1 34 2w,2 34 34 31,
   1 34 36,1 37 36,1 37 3a,1 3b 2q,1 3a 6qd 31,1 2p 6qd 31,1 1d k4l,1 1e k4l,1 1f k4l,1 1g k4l,
   1 1h k4l,1 1i k4l,1 1j k4l,1 1k k4l,1 1l k4l,1 1d 1c k4l,1 1d 1d k4l,1 1d 1e k4l,1 1d 1f k4l,
   1 1d 1g k4l,1 1d 1h k4l,1 1d 1i k4l,1 1d 1j k4l,1 1d 1k k4l,1 1d 1l k4l,1 1e 1c k4l,
   1 1e 1d k4l,1 1e 1e k4l,1 1e 1f k4l,1 1e 1g k4l,1 1e 1h k4l,1 1e 1i k4l,1 1e 1j k4l,
   1 1e 1k k4l,1 1e 1l k4l,1 1f 1c k4l,1 1f 1d k4l,1 2v 2p 30,mn1 ui,1 uk,5v x2n,9 x2y,2 x30,
   2 5tl,e x3g,2 h1,3 x3l,2 x3n,o h2,1 gs,1 gx,1 h8,1 h6,2 im,1 hz,1 il,1 xub,h x3o,1 hu,1 5u6,
   1 x54,2 x56,2 h0,h bf,l 37,1 2r,1 2u,1 35,1 x6e,3 87,1 9f,o3 x0n,1 xtj,1 h7,1 xua,a i5,fbr rpk,
   1 kc4,1 s7e,1 rt4,1 lw1,1 fg2,1 gkl,1 vj0,1 vj0,1 hn5,1 ssx,1 gw7,1 hmw,1 jcm,1 ne1,1 p6t,
   1 qin,1 qt6,1 r20,1 sjz,1 kxu,1 ljv,1 mah,1 mvy,1 q4d,1 sq2,1 uep,1 fia,1 ghh,1 l50,1 mjf,
   1 qi5,1 v8e,1 ifk,1 m3v,1 qfh,1 r50,1 jih,1 pnc,1 qvz,1 iq2,1 kd3,1 lm2,1 mpo,1 slq,1 fpi,
   1 g53,1 gda,1 jwk,1 l3n,1 mj4,1 nhj,1 pa9,1 qh2,1 qjg,1 s1b,1 tv6,1 upb,1 v7e,1 nt8,1 nzz,
   1 otc,1 q15,1 t1g,1 vb3,1 rfa,1 hjz,1 iro,1 okg,1 pdq,1 mle,1 nuy,1 rsy,1 ttj,1 hjs,1 i8y,
   1 kyb,1 lp6,1 lxr,1 oq7,1 oxj,1 tor,1 gcy,1 pe3,1 g64,1 g5o,1 o4c,1 ou6,1 q29,1 tpx,1 rk0,
   1 jin,1 kxu,1 rge,1 fg9,1 i5j,1 iz6,1 mtj,1 n74,1 gev,1 nwb,1 fr3,1 iw9,1 ff1,1 lho,1 k1k,
   1 opu,1 gjn,1 hge,1 ni9,1 q4p,1 re2,1 la2,1 sds,1 lfs,1 jjy,1 put,1 jog,1 n6t,1 fji,1 g2x,
   1 g5l,1 kn5,1 oo7,1 prj,1 rf6,1 ssv,1 gdx,1 gn6,1 ho3,1 ir0,1 k3p,1 m4e,1 nxm,1 tkd,1 ui2,
   1 vbr,1 vda,1 gbf,1 kau,1 l87,1 sbm,1 ino,1 j9s,1 jcw,1 jve,1 lyb,1 mdl,1 n0p,1 o22,1 ovo,
   1 pdb,1 s9y,1 q9a,1 sgz,1 t3e,1 g7r,1 gbn,1 gql,1 ma0,1 r0i,1 re2,1 iq1,1 iyd,1 jnf,1 l9q,
   1 oji,1 mt1,1 fl0,1 h6h,1 i5j,1 iii,1 izg,1 muq,1 mzt,1 p7e,1 pc6,1 svo,1 tti,1 tvs,1 u1k,
   1 fpn,1 o1a,1 ss4,1 trs,1 j4x,1 fie,1 fyy,1 i5q,1 i7z,1 k2h,1 kxu,1 mha,1 ncy,1 q9o,1 sjg,
   1 vil,1 k94,1 tny,1 gax,1 kfv,1 kj7,1 lkx,1 luk,1 mx5,1 n6h,1 nsb,1 opc,1 u3i,1 g31,1 je6,
   1 tq0,1 fu3,1 ie1,1 lpm,1 sa2,1 ivf,1 j7o,1 kk7,1 mtj,1 tqe,1 g89,1 glr,1 i91,1 k5v,1 kem,
   1 ko8,1 lid,1 mx2,1 naa,1 p6h,1 r0v,1 r1d,1 sss,1 tsy,1 gfz,1 lve,1 gm5,1 mhc,1 n14,1 qgq,
   1 tr7,1 uvr,1 vbz,1 kgn,1 lor,1 pns,1 o97,1 obk,1 olu,1 mo0,1 m8p,1 riw,1 fk0,1 px2,1 g8q,
   1 g7b,1 ip2,1 jir,1 onq,1 i2t,1 ljy,1 kac,1 saj,1 qx8,1 tot,1 r63,1 iqb,1 g1s,1 gxs,3 hga,
   2 k8k,3 g66,1 mqy,1 ngq,1 ny4,1 nz2,1 nz9,1 o0f,1 tw6,1 on2,1 p8d,2 qhe,2 rg8,3 shk,1 sn1,
   4 u7j,1 u7w,1 u94,1 v5g,1 sm6,1 trr,1 fqm,1 fzb,1 g25,1 gcp,1 gdg,1 ggh,1 gwt,1 gzq,1 h2g,
   1 hfk,1 hig,1 i90,1 i9a,1 j2s,1 j8o,1 j9q,1 jci,1 k0f,1 k4i,1 k9d,1 kn9,1 lmf,1 lqy,1 lya,
   1 mem,1 mjv,1 mxu,1 ntd,1 ny6,1 nyh,1 nyg,1 nyo,1 nyu,1 nz1,1 o0d,1 o0e,1 o5c,1 o75,1 og0,
   1 ovo,1 ow9,1 oxt,1 p6a,1 pad,1 pnx,1 prt,1 prt,1 q53,1 r2o,1 r6e,1 rgh,1 ri1,1 rtf,1 ruw,
   1 sdy,1 shk,1 tsz,1 u0v,1 u2j,1 j1x,1 36cu,1 pp4,3 ffq,1 g51,1 g2w,1 fpc,1 g1x,1 g3k,1 gcn,
   1 ge2,1 gwt,1 gut,1 gwp,1 gyq,1 hga,1 hir,1 hms,1 hn8,1 huq,1 i08,1 iqa,1 iqh,1 iuh,1 iwd,
   1 j4o,1 j7y,1 j60,1 j9q,1 j8g,1 jci,1 jec,1 jpg,1 jrw,1 jte,1 k0m,1 k8k,1 kd3,1 kd7,1 keu,
   1 l89,1 la2,1 lkx,1 lwb,1 lvv,1 lya,1 m5a,1 mem,1 nmv,1 mk5,1 mnj,1 mqy,1 n01,1 n46,1 n5n,
   1 nbx,1 nbz,1 ngq,1 nh7,1 nhw,1 nka,1 nk0,1 nv0,1 o8h,1 og0,1 ol7,1 orf,1 ovo,1 p4u,1 pad,
   1 pxu,1 q27,1 qrd,1 r41,1 r5y,1 r6e,1 ren,1 rg8,1 rez,1 rgh,1 rge,1 rfx,1 ri1,1 rka,1 ruw,
   1 sag,1 sj6,1 srd,1 sxi,1 tq4,1 tsz,1 tw6,1 tzv,1 u0v,1 u17,1 u2j,1 umq,1 vj0,1 313e,1 3138,
   1 33dh,1 brx,1 cns,1 cop,1 39e1,1 3bgw,1 3i6r,1 vgj,1 vim,13 2u 2u,1 2u 2x,1 2u 30,1 2u 2u 2x,
   1 2u 2u 30,1 37 38,1 37 38,d 12s 12u,1 12s 12d,1 12s 12j,1 132 12u,1 12s 12l,6 15l 14k,
   2 16a 14n,1 15u,1 15c,1 15f,1 15g,4 160,1 162,1 17,1 161 14x,1 161 14y,1 161 14s 14x,
   1 161 14s 14y,1 15c 14n,1 15c 14o,1 15c 14s,1 15d 14s,1 15e 14s,1 15f 14s,1 15g 14s,1 15h 14s,
   1 15i 14s,2 15k 14s,1 15l 14s,1 15m 14s,1 15n 14s,1 15o 14s,2 15q 14s,2 15s 14s,1 15t 14s,
   2 15v 14s,1 15w 14s,2 15y 14s,1 15z 14s,1 160 14s,1 161 14s,1 162 14s,1 15h 14p,1 15d 14v,
   1 15n 14v,1 15w 14v,1 15c 15o,1 19t,1 19t,1 1a3,1 1a3,1 1a3,1 1a3,1 1a6,1 1a6,1 1a6,1 1a6,
   1 1a8,1 1a8,1 1a8,1 1a8,1 1a2,1 1a2,1 1a2,1 1a2,1 1a7,1 1a7,1 1a7,1 1a7,1 1a1,1 1a1,1 1a1,
   1 1a1,1 1b8,1 1b8,1 1b8,1 1b8,1 1ba,1 1ba,1 1ba,1 1ba,1 1ac,1 1ac,1 1ac,1 1ac,1 1ab,1 1ab,
   1 1ab,1 1ab,1 1ae,1 1ae,1 1ae,1 1ae,1 1af,1 1af,1 1af,1 1af,1 1al,1 1al,1 1ak,1 1ak,1 1am,
   1 1am,1 1ag,1 1ag,1 1aw,1 1aw,1 1ap,1 1ap,1 1bd,1 1bd,1 1bd,1 1bd,1 1bj,1 1bj,1 1bj,1 1bj,
   1 1bn,1 1bn,1 1bn,1 1bn,1 1bl,1 1bl,1 1bl,1 1bl,1 1bu,1 1bu,1 1bv,1 1bv,1 1bv,1 1bv,1 1c0,
   1 1c0,1 1c1,1 1c1,1 1c1,1 1c1,1 1by,1 1by,1 1by,1 1by,1 1ci,1 1ci,1 1cj,1 1cj,y 1bh,1 1bh,
   1 1bh,1 1bh,1 1c7,1 1c7,1 1c6,1 1c6,1 1c8,1 1c8,1 1c7 19w,1 1cb,1 1cb,1 1c5,1 1c5,1 1c9,1 1c9,
   1 1cg,1 1cg,1 1cg,1 1cg,1 18p,1 18p,1 17q 17r,1 17q 17r,1 17q 1cl,1 17q 1cl,1 17q 18o,
   1 17q 18o,1 17q 1c7,1 17q 1c7,1 17q 1c6,1 17q 1c6,1 17q 1c8,1 17q 1c8,1 17q 1cg,1 17q 1cg,
   1 17q 1cg,1 17q 18p,1 17q 18p,1 17q 18p,1 1cc,1 1cc,1 1cc,1 1cc,1 17q 17w,1 17q 17x,1 17q 18l,
   1 17q 18p,1 17q 18q,1 17s 17w,1 17s 17x,1 17s 17y,1 17s 18l,1 17s 18p,1 17s 18q,1 17u 17w,
   1 17u 17x,1 17u 17y,1 17u 18l,1 17u 18p,1 17u 18q,1 17v 17w,1 17v 18l,1 17v 18p,1 17v 18q,
   1 17w 17x,1 17w 18l,1 17x 17w,1 17x 18l,1 17y 17w,1 17y 17x,1 17y 18l,1 183 17w,1 183 17x,
   1 183 17y,1 183 18l,1 185 17x,1 185 18l,1 186 17w,1 186 17x,1 186 17y,1 186 18l,1 187 17x,
   1 187 18l,1 188 18l,1 189 17w,1 189 18l,1 18a 17w,1 18a 18l,1 18h 17w,1 18h 17x,1 18h 17y,
   1 18h 18l,1 18h 18p,1 18h 18q,1 18i 17x,1 18i 18l,1 18i 18p,1 18i 18q,1 18j 17r,1 18j 17w,
   1 18j 17x,1 18j 17y,1 18j 18k,1 18j 18l,1 18j 18p,1 18j 18q,1 18k 17w,1 18k 17x,1 18k 17y,
   1 18k 18l,1 18k 18p,1 18k 18q,1 18l 17w,1 18l 17x,1 18l 17y,1 18l 18l,1 18l 18p,1 18l 18q,
   1 18m 17w,1 18m 17x,1 18m 17y,1 18m 18l,1 18m 18p,1 18m 18q,1 18n 17w,1 18n 18l,1 18n 18p,
   1 18n 18q,1 18q 17w,1 18q 17x,1 18q 17y,1 18q 18l,1 18q 18p,1 18q 18q,1 180 19s,1 181 19s,
   1 18p 19s,1 w 18s 18x,1 w 18t 18x,1 w 18u 18x,1 w 18v 18x,1 w 18w 18x,1 w 18x 19s,1 17q 181,
   1 17q 182,1 17q 18l,1 17q 18m,1 17q 18p,1 17q 18q,1 17s 181,1 17s 182,1 17s 18l,1 17s 18m,
   1 17s 18p,1 17s 18q,1 17u 181,1 17u 182,1 17u 18l,1 17u 18m,1 17u 18p,1 17u 18q,1 17v 181,
   1 17v 182,1 17v 18l,1 17v 18m,1 17v 18p,1 17v 18q,1 18h 18p,1 18h 18q,1 18i 18p,1 18i 18q,
   1 18j 17r,1 18j 18k,1 18j 18l,1 18j 18p,1 18j 18q,1 18k 18l,1 18k 18p,1 18k 18q,1 18l 17r,
   1 18l 18l,1 18m 181,1 18m 182,1 18m 18l,1 18m 18m,1 18m 18p,1 18m 18q,1 18p 19s,1 18q 181,
   1 18q 182,1 18q 18l,1 18q 18m,1 18q 18p,1 18q 18q,1 17q 17w,1 17q 17x,1 17q 17y,1 17q 18l,
   1 17q 18n,1 17s 17w,1 17s 17x,1 17s 17y,1 17s 18l,1 17s 18n,1 17u 17w,1 17u 17x,1 17u 17y,
   1 17u 18l,1 17u 18n,1 17v 18l,1 17w 17x,1 17w 18l,1 17x 17w,1 17x 18l,1 17y 17w,1 17y 18l,
   1 183 17w,1 183 17x,1 183 17y,1 183 18l,1 185 17x,1 185 17y,1 185 18l,1 186 17w,1 186 17x,
   1 186 17y,1 186 18l,1 187 17x,1 188 18l,1 189 17w,1 189 18l,1 18a 17w,1 18a 18l,1 18h 17w,
   1 18h 17x,1 18h 17y,1 18h 18l,1 18i 17x,1 18i 18l,1 18j 17w,1 18j 17x,1 18j 17y,1 18j 18k,
   1 18j 18l,1 18k 17w,1 18k 17x,1 18k 17y,1 18k 18l,1 18k 18n,1 18l 17w,1 18l 17x,1 18l 17y,
   1 18l 18l,1 18m 17w,1 18m 17x,1 18m 17y,1 18m 18l,1 18m 18n,1 18n 17w,1 18n 18l,1 18n 19s,
   1 18q 17w,1 18q 17x,1 18q 17y,1 18q 18l,1 18q 18n,1 17q 18l,1 17q 18n,1 17s 18l,1 17s 18n,
   1 17u 18l,1 17u 18n,1 17v 18l,1 17v 18n,1 183 18l,1 183 18n,1 184 18l,1 184 18n,1 18j 18k,
   1 18j 18l,1 18k 18l,1 18m 18l,1 18m 18n,1 18q 18l,1 18q 18n,1 18g 18u 18x,1 18g 18v 18x,
   1 18g 18w 18x,1 187 18p,1 187 18q,1 189 18p,1 189 18q,1 18a 18p,1 18a 18q,1 183 18p,1 183 18q,
   1 184 18p,1 184 18q,1 17x 18p,1 17x 18q,1 17w 18p,1 17w 18q,1 17y 18p,1 17y 18q,1 185 18p,
   1 185 18q,1 186 18p,1 186 18q,1 184 17w,1 184 17x,1 184 17y,1 184 18l,1 184 181,1 183 181,
   1 185 181,1 186 181,1 187 18p,1 187 18q,1 189 18p,1 189 18q,1 18a 18p,1 18a 18q,1 183 18p,
   1 183 18q,1 184 18p,1 184 18q,1 17x 18p,1 17x 18q,1 17w 18p,1 17w 18q,1 17y 18p,1 17y 18q,
   1 185 18p,1 185 18q,1 186 18p,1 186 18q,1 184 17w,1 184 17x,1 184 17y,1 184 18l,1 184 181,
   1 183 181,1 185 181,1 186 181,1 184 17w,1 184 17x,1 184 17y,1 184 18l,1 183 18n,1 184 18n,
   1 187 18l,1 183 17w,1 183 17x,1 183 17y,1 184 17w,1 184 17x,1 184 17y,1 187 18l,1 188 18l,
   1 17r 18r,1 17r 18r,j 17u 17w 18l,1 17u 17x 17w,1 17u 17x 17w,1 17u 17x 18l,1 17u 17y 18l,
   1 17u 18l 17w,1 17u 18l 17x,1 17u 18l 17y,1 17w 18l 17x,1 17w 18l 17x,1 17x 18l 18q,
   1 17x 18l 18p,1 183 17x 17w,1 183 17w 17x,1 183 17w 18p,1 183 18l 17x,1 183 18l 17x,
   1 183 18l 17w,1 183 18l 18l,1 183 18l 18l,1 185 17x 17x,1 185 17x 17x,1 185 18l 18l,
   1 184 17x 18l,1 184 17x 18l,1 184 17w 18q,1 184 18l 17y,1 184 18l 17y,1 184 18l 18l,
   1 184 18l 18l,1 186 17x 18p,1 186 17y 18l,1 186 17y 18l,1 187 18l 17x,1 187 18l 17x,
   1 187 18l 18l,1 187 18l 18q,1 189 17w 18l,1 189 18l 18l,1 189 18l 18l,1 189 18l 18p,
   1 18a 18l 18l,1 18a 18l 18q,1 18a 18l 18p,1 18h 17y 18l,1 18h 17y 18l,1 18i 18l 17x,
   1 18i 18l 18l,1 18k 17x 18l,1 18k 17x 18q,1 18k 17x 18p,1 18k 17w 17w,1 18k 17w 17w,
   1 18k 17y 18l,1 18k 17y 18l,1 18k 18l 17x,1 18k 18l 17x,1 18l 17x 17w,1 18l 17x 18l,
   1 18l 17x 18q,1 18l 17w 17x,1 18l 17w 18l,1 18l 17y 17w,1 18l 17y 18l,3 18l 17w 17y,
   1 18n 18l 17w,1 18n 18l 18l,1 18m 17x 18l,1 18m 17x 18p,1 18m 17w 18l,1 18m 17w 18l,
   1 18m 17w 18p,1 18m 18l 18q,1 18m 18l 18p,1 18q 18l 18l,1 18q 18l 18l,1 17s 17y 18q,
   1 17u 17w 18q,1 17u 17w 18p,1 17u 17y 18q,1 17u 17y 18p,1 17u 18l 18q,1 17u 18l 18p,
   1 17w 18l 18q,1 17w 17x 18p,1 17w 18l 18p,1 183 17y 18p,1 185 17x 18q,1 184 17x 18q,
   1 186 17x 18q,1 18k 17w 18q,1 18k 18l 18q,1 18q 17x 18q,1 18q 17w 18q,1 18q 18l 18q,
   1 18l 18l 18q,1 18i 18l 18q,1 18m 17x 18q,1 18i 18l 17x,1 18k 17x 18l,1 189 18l 18q,
   1 18j 18l 18q,1 18m 17w 17x,1 18l 17y 18q,1 18k 17w 18l,1 18j 18l 18l,1 18k 17w 18l,
   1 18m 17w 17x,1 17w 17x 18q,1 17x 17w 18q,1 18l 17w 18q,1 18h 18l 18q,1 17s 17x 18q,
   1 18j 18l 18l,1 189 17w 18l,1 185 18l 18l,1 183 17y 18q,1 18m 17w 18q,15 185 18k 1ci,
   1 18i 18k 1ci,1 17r 18k 18k 18n,1 17r 18j 17s 181,1 18l 17x 18l 17z,1 185 18k 189 18l,
   1 181 183 18o 18k,1 189 18k 18q 18n,1 18o 183 18k 18l,1 185 18k 18p,
   1 185 18k 18p w 17r 18k 18k 18n w 189 18k 18q 18n w 18o 183 18k 18l,
   1 17w 18k w 17w 18k 17r 18k 18n,1 181 1cc 17r 18k,k 18,1 9hd,2 1m,1 1n,1 x,1 1r,1 9hy,1 9hz,
   p 6c4,1 6c3,1 2n,1 2n,1 14,1 15,1 3f,1 3h,1 9hw,1 9hx,1 9hs,1 9ht,1 9hm,1 9hn,1 9hk,1 9hl,7 2j,
   1 2l,1 w lh,1 w lh,1 w lh,1 w lh,1 2n,1 2n,1 2n,1 18,1 9hd,3 1n,1 1m,1 1r,1 x,1 6c4,1 14,1 15,
   1 3f,1 3h,1 9hw,1 9hx,1 z,1 12,1 16,1 17,1 19,1 1o,1 1q,1 1p,2 2k,1 10,1 11,1 1s,5 w 18r,
   1 18g 18r,1 w 18s,2 w 18t,2 w 18u,1 18g 18u,1 w 18v,1 18g 18v,1 w 18w,1 18g 18w,1 w 18x,
   1 18g 18x,1 w 18y,1 18g 18y,1 17l,1 17m,1 17m,1 17n,1 17n,1 17o,1 17o,1 17p,1 17p,1 17q,1 17q,
   1 17q,1 17q,1 17r,1 17r,1 17s,1 17s,1 17s,1 17s,1 17t,1 17t,1 17u,1 17u,1 17u,1 17u,1 17v,
   1 17v,1 17v,1 17v,1 17w,1 17w,1 17w,1 17w,1 17x,1 17x,1 17x,1 17x,1 17y,1 17y,1 17y,1 17y,
   1 17z,1 17z,1 180,1 180,1 181,1 181,1 182,1 182,1 183,1 183,1 183,1 183,1 184,1 184,1 184,
   1 184,1 185,1 185,1 185,1 185,1 186,1 186,1 186,1 186,1 187,1 187,1 187,1 187,1 188,1 188,
   1 188,1 188,1 189,1 189,1 189,1 189,1 18a,1 18a,1 18a,1 18a,1 18h,1 18h,1 18h,1 18h,1 18i,
   1 18i,1 18i,1 18i,1 18j,1 18j,1 18j,1 18j,1 18k,1 18k,1 18k,1 18k,1 18l,1 18l,1 18l,1 18l,
   1 18m,1 18m,1 18m,1 18m,1 18n,1 18n,1 18n,1 18n,1 18o,1 18o,1 18p,1 18p,1 18q,1 18q,1 18q,
   1 18q,1 18k 17m,1 18k 17m,1 18k 17n,1 18k 17n,1 18k 17p,1 18k 17p,1 18k 17r,1 18k 17r,2r 879,
   1 87a,1 1a,1 9ho,1 9hp,1 9hd,1 9ob,1 9o2,1 9lt,1 9lv,1 9lx,1 9lz,1 9m1,1 9nn,1 9np,1 9nr,1 9mr,
   1 9oc,1 9lu,1 9lw,1 9ly,1 9m0,1 9m2,1 9m3,1 9m5,1 9m7,1 9m9,1 9mb,1 9md,1 9mf,1 9mh,1 9mj,
   1 9ml,1 9mn,1 9mp,1 9ms,1 9mu,1 9mw,7 9n6,1 9n9,1 9nc,1 9nf,6 9no,1 9nq,7 9nz,1 9o3,1 9ll,
   1 9lm,2 3cw,1 3cx,1 3hm,1 3cy,1 3ho,1 3hp,a 3dm,4 3dt,18 4i,1 4j,1 4s,1 w lg,1 4m,1 4l,1 6g9,
   2 7b6,5 7fk,1 7gr,147 1fp8,do k0,1 k1,1 6e,1 ih,1 gj,2 ir,1 xuu,1 it,1 is,1 gm,1 gn,1 5u9,1 go,
   1 gu,1 ix,1 h0,1 gy,1 gw,1 ij,1 87,1 ik,1 h3,1 hw,1 iy,1 iz,1 h8,1 2mmc,1 x3i,1 ha,1 2mmd,1 i6,
   1 2mme,1 6w,1 hi,1 hj,1 35,1 hm,1 2mmg,1 hp,1 hq,1 hs,1 iw,1 iu,1 xuv,1 iv,1 i0,1 8s1,2 i7,
   1 ip,1 iq,1 ig,4 2mmi,1 2mn2,13tw 2jx3 2jxh,1 2jx4 2jxh,1 2jx4 2jxh 2jxq,1 2jx4 2jxh 2jxr,
   1 2jx4 2jxh 2jxs,1 2jx4 2jxh 2jxt,1 2jx4 2jxh 2jxu,2f 2jzt 2jxh,1 2jzu 2jxh,1 2jzt 2jxh 2jxq,
   1 2jzu 2jxh 2jxq,1 2jzt 2jxh 2jxr,1 2jzu 2jxh 2jxr,kc 2p,2 2r,1 2s,3 2v,3 2y,1 2z,2m 2p,1 2q,
   1f 2p,1 2q,d 33,9q 8h,1 fr,k qg,8 6pz,i qr,8 6pu,1 qd,1 qg,1 qi,1 qu,1 qp,1 qo,i qg,8 6pz,i qr,
   8 6pu,1 qd,1 qg,1 qi,1 qu,1 qp,1 qo,i qg,8 6pz,i qr,8 6pu,1 qd,1 qg,1 qi,1 qu,1 qp,1 qo,i qg,
   8 6pz,i qr,8 6pu,1 qd,1 qg,1 qi,1 qu,1 qp,1 qo,i qg,8 6pz,i qr,8 6pu,1 qd,1 qg,1 qi,1 qu,1 qp,
   1 qo,1 rh,1 rh,1oc uj,1 ul,1 um,1 ww9,1 yh,1 uu,1 uw,1 yx,1 xb,1 y7,a u2,1 u3,1 u6,1 u7,1 u9,
   7 ui,1 uj,1 wh,1 uu,1 ut,1 v3,1 x7,1 wup,1 xd,2oj 17r,1 17s,1 17w,1 17z,2 18o,1 182,1 17x,
   1 187,1 18q,5 183,1 189,1 18h,1 185,1 18i,1 181,1 184,1 17u,1 17v,1 17y,1 180,1 186,1 188,
   1 18a,1 19q,1 1bu,1 1b5,1 19r,2 17s,1 17w,2 18n,3 17x,2 18q,5 183,1 189,1 18h,1 185,1 18i,
   2 184,1 17u,1 17v,1 17y,2 186,2 18a,7 17w,5 17x,2 18q,2 18k,2 18m,1 183,1 189,2 185,1 18i,
   2 184,3 17y,2 186,2 18a,2 1bu,2 19r,2 17s,1 17w,2 18n,3 17x,1 187,1 18q,1 18j,2 18l,1 18m,
   1 183,1 189,1 18h,1 185,1 18i,2 184,1 17u,1 17v,1 17y,2 186,1 188,1 18a,1 19q,2 1b5,2 17r,
   1 17s,1 17w,1 17z,1 18n,1 18o,1 182,1 17x,1 187,1 18q,5 183,1 189,1 18h,1 185,1 18i,1 181,
   1 184,1 17u,1 17v,1 17y,1 180,1 186,1 188,1 18a,6 17s,1 17w,1 17z,2 18o,1 182,1 17x,1 187,
   1 18q,5 183,1 189,1 18h,1 185,1 18i,1 181,1 184,1 17u,1 17v,1 17y,1 180,1 186,1 188,1 18a,
   g6 1c 18,1 1d 18,1 1e 18,1 1f 18,1 1g 18,1 1h 18,1 1i 18,1 1j 18,1 1k 18,1 1l 18,6 14 2p 15,
   1 14 2q 15,1 14 2r 15,1 14 2s 15,1 14 2t 15,1 14 2u 15,1 14 2v 15,1 14 2w 15,1 14 2x 15,
   1 14 2y 15,1 14 2z 15,1 14 30 15,1 14 31 15,1 14 32 15,1 14 33 15,1 14 34 15,1 14 35 15,
   1 14 36 15,1 14 37 15,1 14 38 15,1 14 39 15,1 14 3a 15,1 14 3b 15,1 14 3c 15,1 14 3d 15,
   1 14 3e 15,1 9hw 37 9hx,1 2r,1 36,1 2r 2s,1 3b 3e,s 2w 3a,1 31 3a,1 37 2s,1 37 37,1 34 34 3a,
   1 3b 2r,r 31 2r,1 31 2s,1 31 36,10 2s 2y,34 9kr 9jf,1 9mb 9mb,1 9md,e jez,1 i1j,1 gjw,1 9mv,
   1 fik,1 hlm,1 r8j,1 hm1,1 fj8,1 k68,1 mch,1 k2h,1 g99,1 ivg,1 g3x,1 k34,1 g7x,1 oqq,1 n4v,
   1 rs9,1 hkg,1 gmx,1 lxw,1 jh1,1 jmd,1 feo,1 fex,1 si2,1 ijq,1 ffx,1 gkz,1 jk7,1 rxs,1 jf7,
   1 o01,1 o6y,1 glk,1 lts,1 kcp,1 kco,1 n5f,1 gaa,1 gxi,1 sp9,5 9hw kdo 9hx,1 9hw fex 9hx,
   1 9hw fik 9hx,1 9hw i2x 9hx,1 9hw m9l 9hx,1 9hw jf7 9hx,1 9hw nh3 9hx,1 9hw gd9 9hx,
   1 9hw k0n 9hx,8 ivr,1 gkv,1fov fgd,1 fg8,1 fgh,1 2tcy,1 fog,1 fqm,1 fqz,1 fsy,1 fwa,1 fx5,
   1 fzb,1 fyn,1 ae6,1 2ud6,1 g25,1 g2c,1 g2s,1 g3b,1 2u58,1 aex,1 g2v,1 g3x,1 2u6j,1 g47,1 g4k,
   1 fkc,1 g4s,1 g51,1 3ly7,1 g6t,1 g77,1 afz,1 g8r,1 g92,1 gaa,1 gaf,1 ahh,1 gcn,1 gcp,1 gdg,
   1 ge2,1 ged,1 gee,1 gev,1 gg9,1 ggh,1 ggq,1 ghf,1 ghp,1 ghr,1 ghr,1 ghr,1 2v58,1 m7k,1 gju,
   1 gkf,1 2vdv,1 gkr,1 gkx,1 gli,1 gpq,1 gmw,1 gnc,1 go8,1 gpu,1 gs6,1 gsw,1 gur,1 gv7,1 gw4,
   1 gw4,1 gwp,1 gx7,1 gxf,1 gxu,1 h7a,1 gzq,1 h7b,1 h1t,1 h2s,1 g7b,1 hke,1 hce,1 hdg,1 he5,
   1 haj,1 hf6,1 hf5,1 hik,1 2x9g,1 hki,1 hkn,1 hl2,1 hlm,1 hlu,1 hnm,1 2xm0,1 2xnu,1 hrg,1 hsr,
   1 ht3,1 hqw,1 huu,1 aum,1 av0,1 hzc,1 i0u,1 i0u,1 2y88,1 i4j,1 i54,1 i5j,1 i5v,1 2yhk,1 i67,
   1 i6e,1 itv,1 i76,1 ayp,1 i8w,1 i9a,1 ibk,1 ia5,1 2z1g,1 if7,1 2z1i,1 ige,1 igb,1 igs,1 ijl,
   1 ijm,1 b3j,1 ikd,1 ilk,1 im5,1 ind,1 b4y,1 2zr7,1 b5o,1 ipc,1 ipf,1 ipi,1 iq2,1 3pg2,1 iri,
   1 3035,1 3035,1 poh,1 isi,1 isi,1 b7r,1 335k,1 3cgq,1 iua,1 iuj,1 b8j,1 ivu,1 ix9,1 ixj,1 iyh,
   1 j29,1 bay,1 ba4,1 j2s,1 30t0,1 j47,1 j7s,1 j7w,1 j7y,1 j7w,1 j96,1 j9q,1 jaq,1 jac,1 jan,
   1 jby,1 jci,1 jcm,1 jdc,1 jdn,1 jfh,1 jht,1 jis,1 jm8,1 31n0,1 jlp,1 jjw,1 jmw,1 jnn,1 jqc,
   1 31td,1 js2,1 jph,1 jop,1 bhq,1 ju1,1 jum,1 jvh,1 juf,1 bjg,1 k0f,1 k18,1 32mi,1 k4j,1 kc8,
   1 k7d,1 bo9,1 k9d,1 bns,1 bms,1 g42,1 g45,1 kcg,1 k9o,1 pf1,1 deh,1 kd3,1 kd7,1 kdd,1 kf2,
   1 ker,1 33cz,1 bpl,1 kje,1 kg5,1 klu,1 kn9,1 33hp,1 kni,1 kkf,1 kr8,1 brx,1 ksi,1 kv7,1 kx6,
   1 l2g,1 33xf,1 l3v,1 bvc,1 l5t,1 34br,1 l78,1 bwu,1 l82,1 l9b,1 la2,1 la3,1 34p9,1 2yvf,1 34sa,
   1 le6,1 354s,1 lhb,1 lhp,1 lev,1 ljq,1 lku,1 lmf,1 lkx,1 lm1,1 lmg,1 lmt,1 357i,1 lkk,1 lrj,
   1 lta,1 c37,1 lvv,1 lvr,1 35jl,1 lq1,1 m0e,1 35ni,1 35ou,1 m2u,1 m61,1 m5a,1 m57,1 c5y,1 m6i,
   1 m7x,1 m7r,1 m99,1 2u5h,1 mdh,1 368z,1 mfw,1 36i3,1 mjs,1 mk5,1 mkw,1 36yw,1 mm8,1 mmt,1 3779,
   1 37dg,1 mt6,1 mtn,1 cdo,1 mud,1 ce0,1 ce0,1 myv,1 mzg,1 n01,1 n0l,1 n2i,1 cgr,1 n50,1 386u,
   1 n5q,1 389e,1 n74,1 2zrz,1 nbk,1 38v5,1 38vs,1 38zo,1 cn0,1 cnc,1 nhw,1 394j,1 394i,1 395l,
   1 396b,1 nj2,1 nj3,1 nj3,1 nka,1 cop,1 nm3,1 cp2,1 cra,1 39r1,1 nri,1 nt8,1 nv0,1 ctf,1 3a5i,
   1 nyu,1 3a8q,1 3a9x,1 o0f,1 o2z,1 cvj,1 o5c,1 o5m,1 o5r,1 3at8,1 3b1j,1 3b1j,1 oa6,1 d1e,
   1 3b8r,1 og6,1 og9,1 d2f,1 3beo,1 onm,1 d5s,1 oo8,1 oo3,1 oow,1 3c06,1 orn,1 d8h,1 ouf,1 ow2,
   1 oxx,1 d9w,1 3ciw,1 3cjr,1 dax,1 3cnt,1 p6i,1 3cqm,1 p79,1 pa2,1 pad,1 3d22,1 3d43,1 pcw,
   1 3d7s,1 pdc,1 33a7,1 ded,1 pf6,1 phf,1 dfv,1 pj2,1 hx1,1 3dlz,1 3dmd,1 33bn,1 33bw,1 poh,
   1 pok,1 sda,1 dij,1 psh,1 psb,1 pst,1 gc3,1 ptd,1 ptf,1 ptp,1 puu,1 3ebg,1 put,1 pwd,1 pyb,
   1 q0d,1 pwj,1 q0t,1 q1z,1 q53,1 pxv,1 q16,1 q18,1 q1o,1 3eie,1 3eqz,1 3emt,1 dnv,1 q9d,1 q9f,
   1 qae,1 3g0a,1 qck,1 3f3g,1 dp9,1 dpd,1 3f75,1 3ff6,1 dpn,1 qj4,1 qjg,1 qjr,1 qjt,1 qll,1 qko,
   1 qoe,1 qn6,1 qrd,1 qp4,1 qqz,1 qrq,1 dsn,1 qu9,1 qv5,1 dtl,1 qxs,1 qxv,1 3giv,1 r13,1 r1a,
   1 dv9,1 r22,1 aez,1 3gz2,1 3h46,1 dz2,1 dzb,1 rds,1 rfx,1 rka,1 rpx,1 3hrc,1 rsb,1 rsx,1 rvf,
   1 rxz,1 3i9b,1 2upw,1 s0b,1 rzw,1 s1c,1 2uvy,1 s7o,1 sag,1 3jki,1 3jl9,1 sk4,1 smp,1 snl,
   1 3ju6,1 snv,1 svs,1 t07,1 t08,1 sxo,1 t89,1 t91,1 3ksa,1 tjf,1 ej9,1 tkn,1 3l2v,1 eli,1 ts3,
   1 iia,1 tur,1 3ltx,1 3lzu,1 epa,1 epi,1 u00,1 3mdm,1 er6,1 3mhi,1 u17,1 u17,1 u21,1 3mpi,1 u76,
   1 eur,1 u95,1 ucn,1 ude,1 uf2,1 ez2,1 3nsg,1 umq,1 uv4,1 v0d,1 f66,1 f71,1 v3b,1 3owe,1 f7c,
   1 3oxx,1 3p5a,1 3p8x,1 vcr,1 f9y,1 veh,1 vem,1 vet,1 vf3,1 vfa,1 vgb,1 3pxc"

def permitted : List (Nat × Nat) :=
  Table.ranges
  "0 1t,2j 11,1y 7,8 1,2 2,3 1,2 2,6 2,5 1,4 1,o 1,8 x,y 1,2 1,2 1,2 1,2 1,2 1,2 1,2 1,2 1,2 1,
   2 1,2 1,2 1,2 1,2 1,2 1,2 1,2 1,2 1,2 1,2 1,2 1,2 1,2 1,2 1,4 1,2 2,3 1,2 1,2 1,4 1,2 1,2 1,
   2 1,3 1,2 1,2 1,2 1,2 1,2 1,2 1,2 1,2 1,2 1,2 1,2 1,2 1,2 1,2 1,2 1,2 1,2 1,2 1,2 1,2 1,2 1,
   2 1,3 1,2 1,2 1,2 1,3 1,2 1,3 1,4 2,6 1,3 1,4 3,5 1,3 1,2 1,2 1,3 1,2 2,3 1,3 1,4 1,2 1,3 3,
   4 7,h 1,2 1,2 1,2 1,2 1,2 1,2 1,2 2,3 1,2 1,2 1,2 1,2 1,2 1,2 1,2 1,2 2,6 1,4 1,2 1,2 1,2 1,
   2 1,2 1,2 1,2 1,2 1,2 1,2 1,2 1,2 1,2 1,2 1,2 1,2 1,2 1,2 1,2 1,2 1,2 1,2 1,2 1,2 1,2 1,2 1,
   2 1,2 1,2 7,9 1,3 2,3 1,5 1,2 1,2 1,2 1,2 2p,2y v,11 2,7 2j,2l 1,4 9,a w,x 1,2 1,2 1,2 1,4 3,
   l 1,s z,17 1,2 1,2 1,2 1,2 1,2 1,2 1,2 1,2 1,2 1,2 1,2 1,2 1,4 1,3 1,2 1,3 2,1h 1c,1d 1,2 1,
   2 1,2 1,2 1,2 1,2 1,2 1,2 1,2 1,2 1,2 1,2 1,2 1,2 1,2 1,2 9,a 1,2 1,2 1,2 1,2 1,2 1,2 1,2 1,
   2 1,2 1,2 1,2 1,2 1,2 1,2 1,2 1,2 1,2 1,2 1,2 1,2 1,2 1,2 1,2 1,2 1,2 1,2 1,3 1,2 1,2 1,2 1,
   2 1,2 1,2 2,3 1,2 1,2 1,2 1,2 1,2 1,2 1,2 1,2 1,2 1,2 1,2 1,2 1,2 1,2 1,2 1,2 1,2 1,2 1,2 1,
   2 1,2 1,2 1,2 1,2 1,2 1,2 1,2 1,2 1,2 1,2 1,2 1,2 1,2 1,2 1,2 1,2 1,2 1,2 1,2 1,2 1,2 1,2 1,
   2 1,2 1,2 1,2 1,2 1,16 1a,1b 3,5 3,4 1j,1r r,v 6,n m,n 2g,2k 2s,2t 1c,1e 1n,1p 2t,37 1n,1p 1d,
   1f f,g s,u 1,2 b,g w,13 23,24 39,3h 10,11 8,a 2,4 m,n 7,8 1,4 4,6 9,b 2,4 4,c 1,9 4,6 p,r 3,
   4 6,a 2,4 m,n 7,8 1,3 1,3 2,4 1,2 5,9 2,4 3,6 1,b 1,a h,r 3,4 9,a 3,4 m,n 7,8 2,3 5,7 a,b 3,
   4 3,5 1,g 4,6 c,j 7,8 3,4 8,a 2,4 m,n 7,8 2,3 5,7 9,b 2,4 3,a 3,a 5,7 i,s 2,3 6,9 3,4 4,7 2,
   3 1,2 2,5 2,5 3,6 c,g 5,8 3,4 4,6 1,7 1,f l,q d,e 3,4 n,o g,i 9,a 3,4 4,b 2,3 3,4 2,4 4,6 a,
   h m,n 3,4 n,o a,b 5,7 9,a 3,4 4,b 2,7 3,4 4,6 a,b 3,f d,e 3,4 1f,1g 3,4 6,a g,i q,r 3,4 i,l o,
   p 9,a 1,3 7,a 1,5 6,7 1,2 8,e a,c 3,f 1e,1f 7,b t,1u 2,3 1,2 5,6 o,p 1,2 c,d a,c 5,6 1,2 7,8 a,
   e 2,y c,d 1i,1j 4,5 4,5 4,5 4,5 4,5 c,d 3,7 2,3 1,6 7,8 h,i 4,5 4,5 4,5 4,5 4,5 c,d 3,4 f,g d,
   1e 4g,5s 18,19 2q,2s 6g,6h 4,6 7,8 1,2 4,6 15,16 4,6 x,y 4,6 7,8 1,2 4,6 f,g 1l,1m 4,6 1v,1x w,
   z q,w 2e,2o hs,ht s,v 2h,2o m,v o,x k,w d,e 3,4 2,e 1g,1i 14,16 a,g a,g b,g a,g 2h,2o 17,1c 1y,
   28 v,w c,g c,g 1,4 16,18 5,g 18,1c q,w b,e 1q,1s 1t,1u t,v b,h a,g e,g 1a,1c c,w 25,26 4m,
   4u 1o,1r f,i 1f,1p 1,1i 8,g 17,1c 18,1b 1,c 1,j 1,t d,e y,1z 1s,1t 1,2 1,2 1,2 1,2 1,2 1,2 1,
   2 1,2 1,2 1,2 1,2 1,2 1,2 1,2 1,2 1,2 1,2 1,2 1,2 1,2 1,2 1,2 1,2 1,2 1,2 1,2 1,2 1,2 1,2 1,
   2 1,2 1,2 1,2 1,2 1,2 1,2 1,2 1,2 1,2 1,2 1,2 1,2 1,2 1,2 1,2 1,2 1,2 1,2 1,2 1,2 1,2 1,2 1,
   2 1,2 1,2 1,2 1,2 1,2 1,2 1,2 1,2 1,2 1,2 1,2 1,2 1,2 1,2 1,2 1,2 1,2 1,2 1,2 1,2 1,2 5,7 2,
   3 1,2 1,2 1,2 1,2 1,2 1,2 1,2 1,2 1,2 1,2 1,2 1,2 1,2 1,2 1,2 1,2 1,2 1,2 1,2 1,2 1,2 1,2 1,
   2 1,2 1,2 1,2 1,2 1,2 1,2 1,2 1,2 1,2 1,2 1,2 1,2 1,2 1,2 1,2 1,2 1,2 1,2 1,2 1,2 1,2 1,2 1,
   2 1,2 1,2 9,h 6,g 8,g 8,g 6,g 8,g 8,g 1,2 1,2 1,2 1,2 1,2 1,2 1,1g 2,6 1,g 1,a 3,6 2,a 3,4 4,
   i 1,m 2,4 1,2 5,6 c,f 1,9 3,5 1,3 4,5 1,2 8,b d,e 7,20 8,9 p,13 x,1g 1,4 1,c 1,3 2,7 2,5 1,2 1,
   2 1,2 1,5 1,c 1,7 4,9 6,1i 3,4 5,6 2,6 4c,4e 1,3 6w,6y 73,7p b,4r 10h,10i 2v,2y 2t,2u 47,49 3u,
   56 1c,1d 1,4 2,3 1,2 1,2 1,5 1,2 2,3 6,b 1,2 1,2 1,2 1,2 1,2 1,2 1,2 1,2 1,2 1,2 1,2 1,2 1,2 1,
   2 1,2 1,2 1,2 1,2 1,2 1,2 1,2 1,2 1,2 1,2 1,2 1,2 1,2 1,2 1,2 1,2 1,2 1,2 1,2 1,2 1,2 1,2 1,
   2 1,2 1,2 1,2 1,2 1,2 1,2 1,2 1,2 1,2 1,2 1,2 1,2 8,9 1,2 4,5 1,6 19,1a 1,6 1,3 1k,1s 1,f o,
   x 7,8 7,8 7,8 7,8 7,8 7,8 7,8 7,8 3i,4g q,r 4,5 2b,9t 1,2 1f,1g 1,4 5,6 2e,2g 2,4 2,3 2n,2t 17,
   3v 2,g 1y,28 g,2g 8,1j 1,ap m8d,m8g 1j,1s 9o,a9 1,2 1,2 1,2 1,2 1,2 1,2 1,2 1,2 1,2 1,2 1,2 1,
   2 1,2 1,2 1,2 1,2 1,2 1,2 1,2 1,2 1,2 1,2 j,k 1,2 1,2 1,2 1,2 1,2 1,2 1,2 1,2 1,2 1,2 1,2 1,
   2 1,2 1,3 2i,2q y,z 1,2 1,2 1,2 1,2 1,2 1,2 3,4 1,2 1,2 1,2 1,2 1,2 1,2 1,2 1,2 1,2 1,2 1,2 1,
   2 1,2 1,2 1,2 1,2 1,2 1,2 1,2 1,2 1,2 1,2 1,2 1,2 1,2 1,2 1,2 1,2 1,2 1,2 1,2 8,9 1,2 1,3 1,
   2 1,2 1,2 1,2 4,5 1,2 2,3 1,2 3,4 1,2 1,2 1,2 1,2 1,2 1,2 1,2 1,2 1,2 1,6 1,6 1,2 1,2 1,2 1,
   2 1,2 1,2 1,2 1,5 1,2 1,3 1,2 1,2 1,2 1,2 1,2 1,2 1,2 1,r 2,4 1f,1i a,g 1k,1s 1y,26 c,i 38,
   3j u,x 26,27 b,f x,y 1j,1s e,g a,c 2v,3j s,12 6,8 6,8 6,f 7,8 7,8 18,1c 9,a 2,2e 1a,1c a,g 8mc,
   8mo n,r 1d,6rn 2,3 1,2 2,c 1,2 1,2 2,4 3,6v 1,44 x,b0 i,2a 2,1k 8,1h 3,z g,11 2,1a 1,b1 c,d q,
   r j,k 2,3 f,h e,1c 3f,3k 3,7 19,1c 2g,2h d,g 1,1c 1a,4w t,w 1d,1s s,w 10,19 u,z 17,1c u,v 11,
   15 e,2o 3a,3c a,1k 10,14 14,1c 1g,1r 1,14 b,c f,g 7,8 2,5 1g,1s 8n,8w m,w 8,w 1,3k 6,8 1,2 18,
   19 2,5 1,3 n,o 20,28 9,1l j,k 2,7 x,10 r,w r,1t 1k,1o k,m 1e,1f 2,7 8,9 3,4 t,v 3,7 a,h 9,g 1s,
   2o 13,17 c,l 1i,1l t,v r,w q,x 4,g 7,2f 21,5c 1f,1m 1a,1i a,g g,15 t,11 2,5u v,w 16,17 3,5 2,
   i 6,e 9,16 1a,1i 16,1s q,1s s,1c n,w 26,2a 10,19 1q,1r 5,i p,w a,g 1h,1i i,q 13,1c 2o,2p k,v i,
   j 1b,31 7,8 1,2 4,5 f,g b,h 1n,1s a,g 4,5 8,a 2,4 m,n 7,8 2,3 5,6 a,c 2,4 3,5 1,7 1,6 7,9 7,
   a 5,g a,b 1,3 1,2 12,13 a,b 1,3 1,2 4,5 a,b 2,a 2,v 2k,2l 5,z 20,28 a,4w 1i,1k 12,20 1x,28 a,
   g d,w 1m,1s a,g k,1c r,t f,j n,5s 1o,5c 1f,1r 8,a 1,3 8,9 2,3 u,v 2,4 c,l a,28 8,a 1a,1c b,
   12 20,28 2b,2o 21,28 a,2o 8,2o y,1c a,g 9,a 19,1a e,o t,w w,y m,n e,2f 7,8 2,3 18,1b 1,2 2,3 9,
   h a,g 6,7 2,3 11,12 2,3 6,d a,g 18,1c a,74 p,w h,i 15,18 t,36 1,g 1e,1r pn,sh 33,34 5,g 5g,
   26o 2r,34 ts,u8 m,w 32z,334 g7,5q8 1m,1ds ft,g0 v,w a,e 29,2a a,g u,w 6,g 1y,28 a,b 7,8 l,q j,
   cj 1m,80 1n,2j p,1x 23,27 1l,1s h,29 5,g 7,g 5p2,5q7 w,3l 37,6sw 4,5 7,8 2,3 83,8i 1,u 3,5 1,
   f 4,c b0,234 2z,34 d,g 9,g a,c 4,31g 5y,6y 3,6 c4,ca n,12 h,w 1a,1c n,w 38,4w 6u,74 13,15 1h,
   1o e,m 1s,1y 16,1r 1y,5c k,w k,w 2f,2o p,ww i4,ij 5,6 f,v3 v,11 6,63 7,8 h,j 7,8 2,3 5,2x 1,
   35 19,1c e,g a,e 2,8y v,1c 1m,1r 1,cx 16,74 17,1b 1,5d v,w m,u 2,6a 7,8 4,5 2,3 f,g 5h,5j g,
   2j 16,1a a,e 2,lv 1w,40 1p,dr 2,7k 18,1c 2s,34 f,h f,g f,g 11,1m 5,10 1,x q,t z,10 t,2d q,3e 6,
   4g rd,rg h,k d,g 62,68 c,g 1,g c,g 1k,1s a,g 14,1c u,w c,g 2,g 9,1c 9k,9s e,g d,g b,e 1l,1m 1,
   5 g,i c,g a,h 43,44 2k,2u 1,sm wyo,wzk 3dq,3ds 4ge,4gg 5rl,5s0 ha,3yo 3t7,3tc 6ju"

def nonspacingMarks : List (Nat × Nat) :=
  Table.ranges
  "lc 1s,1u 1,4 9,a w,8j 7,7i 19,1a 1,2 2,3 2,3 1,21 b,1n l,11 1,2u 7,9 6,8 2,3 4,13 1,v r,3a b,
   1x 9,i 1,p 4,5 9,a 3,4 5,1c 3,1q 9,1f o,p w,2f 1,2 1,5 8,c 1,4 7,h 2,v 1,1n 1,5 4,c 1,l 2,s 1,
   3 2,1n 1,5 2,6 2,4 3,6 1,v 2,5 1,c 2,1n 1,5 5,6 2,6 1,l 2,o 6,7 1,1n 1,3 1,2 4,c 1,8 2,d 2,w 1,
   1q 1,d 1,1f 1,4 1,1k 1,2 3,8 3,4 4,b 2,d 2,v 1,1n 1,3 1,7 1,6 2,m 2,u 2,1n 2,6 4,c 1,l 2,v 1,
   21 1,8 3,4 1,2j 1,3 7,j 8,2y 1,3 9,k 7,28 2,t 1,2 1,2 1,1k 2,3 1,6 5,6 1,2 3,4 2,7 6,7 4,5 4,
   5 4,5 4,5 4,5 c,d 3,c 1,2v 4,5 6,7 2,4 2,r 2,6 3,j 4,h 1,3 2,8 1,g 1,jk 3,qd 3,w 2,w 2,w 2,
   1x 7,f 1,3 b,k 1,4o 2,10 1,3b 3,7 2,b 1,7 3,66 2,4 1,1n 1,2 7,8 1,2 1,3 8,e a,c 1,1d 1a,1c c,
   w 4,1g 1,2 5,6 1,6 1,15 9,l 2,y 4,6 2,3 3,1n 1,2 2,5 1,2 3,1p 8,a 2,4a 3,4 d,e 7,b 1,7 1,4 2,
   5k 1s,ls x,2e7 3,40 1,2p w,ga 4,33 2,n9y 4,5 a,16 2,2a 2,7m 1,4 1,5 1,q 2,7 1,48 2,s i,v 1,
   13 8,x b,1l 3,1f 1,3 4,6 2,15 1,1w 6,8 2,4 2,e 1,9 1,1c 1,1g 1,2 3,5 2,7 2,3 1,17 2,a 1,6n 1,
   3 1,5 1,fn5 1,le g,rh 1,6b 1,46 5,1aj 3,4 2,7 4,18 3,7 1,4m 2,fz 4,1x 5,8y 2,27 6,24 b,1o 4,
   3j 1,1j f,1k 1,3 2,c 3,1g 4,6 2,9 1,1q 3,13 5,6 8,1y 1,d 2,1i 9,j 4,6 1,2o 3,5 1,2 2,8 1,3 1,
   4e 1,4 8,t 2,1n 2,5 1,12 7,a 5,23 6,j 1,2 1,2 1,f 2,2f 8,a 3,4 1,o 1,2d 6,7 1,5 2,3 2,6o 4,a 2,
   3 2,t 2,2f 8,a 1,2 2,30 1,2 1,3 6,7 1,2u 1,2 1,3 4,5 5,7c 9,a 2,76 2,3 1,5 1,41 4,6 2,6 1,x a,
   1e 6,8 4,c 1,a 6,8 3,1d d,e 2,5k 1,2 3,4 1,5m 7,8 6,7 1,2b m,o 7,8 2,3 2,3g 6,9 1,2 2,3 7,8 1,
   21 2,5 1,2 1,9o 2,d 2,1i 5,a 1,2 1,o 1,44m 1,7 f,8uv c,f 3,1xf 5,1s 7,tb 1,1s 4,2d 1,f5l 2,
   3mr 1a,1c n,fr 3,k 8,a 7,11 4,48 3,1j2 1j,1n 1e,1m 1,f 1,n 5,6 f,127 7,8 h,j 7,8 2,3 5,2x 1,
   4h 7,am 1,1q 4,e8 4,76 2,6t 1,3 1,8 2,7 1,d7 7,38 8"

def spacingMarks : List (Nat × Nat) :=
  Table.ranges
  "1s3 1,1k 1,3 3,b 4,5 2,1g 2,1o 3,9 2,4 2,c 1,18 1,1n 3,1x 1,1n 3,b 1,2 2,1j 2,1o 1,2 1,7 2,4 2,
   c 1,2v 2,3 2,5 3,4 3,d 1,16 3,1s 4,1t 2,1o 1,2 5,7 2,3 2,b 2,19 2,1o 3,8 3,4 3,d 1,17 2,25 3,
   9 8,q 2,98 2,1t 1,4s 2,6 1,7 1,3 2,r 2,c 3,5 7,s 2,4 6,8 1,b 3,1a3 1,v 1,3m 1,8 8,9 2,9o 4,6 3,
   7 2,3 6,6e 2,1o 1,2 1,a 1,2 2,a 6,47 1,1d 1,6 1,2 5,6 2,1r 1,v 1,5 2,4 1,1p 1,3 3,4 1,4 2,1e 8,
   g 2,4t 1,m 1,3sn 2,np1 2,4 1,2h 2,1g g,4e 2,1d 1,1d 2,6 2,4 3,35 2,4 2,q 1,1a 1,2 1,32 1,3 2,
   7 1,6m 2,3 2,3 2,3 1,jro 1,2 1,3k 1,1a 3,7 2,39 1,p 2,1p 1,1d 3,c 2,f 1,2m 3,6 2,3 1,4r 3,y 2,
   1o 2,3 4,6 2,4 3,c 1,b 2,5v 3,b 2,5 1,2z 3,9 1,2 4,6 1,6m 3,9 4,6 1,36 3,b 2,3 1,32 1,2 2,8 1,
   2y 2,6 1,7a 3,c 1,6w 6,7 2,6 1,3 1,2 1,3z 3,b 4,8 1,2d 1,u 2,1s 1,bc 1,f 1,2z 1,8 1,3 1,5y 5,
   9 2,3 1,9r 2,fvg 1j,4f 2,j91 2,8 6"

def rightToLeft : List (Nat × Nat) :=
  Table.ranges
  "14u 1,2 1,3 1,3 1,a r,v 6,p 1,3 1,2 1,e 1,2 1a,28 3,4 4,8 2l,30 2,9 2,c k,m 1,2 u,1n 2h,2s 1,
   f 17,1g 2,6 1,4 o,s 1,a 1,4 1,8 f,g p,u 1,2 b,g v,1c 16,1c0i h,jl 1,1vx 6,8 1,2 18,19 2,5 1,
   3 n,o 20,28 9,1l j,k 2,7 x,11 q,v 1,1t 1k,1o k,m 1b,1q 4,5 3,4 t,13 9,g 9,g 1s,2o 11,17 c,l 1i,
   1s m,o r,w q,x 4,g 7,2f 21,5c 1f,1m 16,au 16,19 1,3 2,28 14,1c m,x 9,v i,m 4,16 s,1c n,16ow 5h,
   5j 9,2j y,15 1,5 a,e 2,lv 1w,40 1p"

def arabicDigits : List (Nat × Nat) :=
  Table.ranges
  "19c a,b 2,1fwl a,8g v"

def europeanDigits : List (Nat × Nat) :=
  Table.ranges
  "1c a,1c0 a,1drl r"

def neutral : List (Nat × Nat) :=
  Table.ranges
  "0 9,e e,j f,p 7,x 6,w 5,12 7,8 1,2 2,3 1,2 2,6 2,5 1,4 1,o 1,w 1,ci 2,9 e,g 6,c 2,7 9,a h,3q 1,
   3l 1,b8 1,3 3,3d 2,3 2,3 1,2 2,2k 1,38 1,b 1,7h 4,e4 2,9 1,6u 1,76 8,3p 7,cn 1,6z 4,uu a,34 1,
   ij 2,8w 1,l a,g b,8w 1,4 2,4a y,17y 2,4 1,2 5,6 c,f 1,9 3,5 1,3 4,5 1,2 8,b d,e 7,20 8,9 o,
   2j 1,4 1,c 1,3 2,7 2,5 1,2 1,2 1,2 1,5 1,c 1,7 4,9 4,1s 2,6 4c,4e 1,3 6w,6y b,28 q,r 41,4q b,
   4r ch,ci 9f,gj 7g,7h 2v,2y 2t,2u 47,49 w,x 2x,9a 6,k 7,7b 2m,3k q,r 4,5 2b,9t 1,2 2,5 p,14 1,
   7 1,6 3,2r 1,2j 1,5h 10,5j4 1s,h5c 1j,al 3,2u 1,b 2,3m y,3s 1,4g 4,g 2,1o 4,l2 2,g5w i,41 1,
   1a 3,20 2,jg 1,1r 25,28 d,g 1,1hb 1,ey 7,109 k,172 d,1v9 t,ft9 1,jd3 2,n 1u,1x 1,57 2f,35r 1,
   2cx 2,7k 18,1c 2s,34 f,h f,g f,g 11,1m 5,10 1,1q 3,1s 1,4z 6,4g rc,rh g,j d,g 38,3k 2h,2o c,
   g 1,g c,g 1k,1s a,g 14,1c u,w 2,28 9g,9s e,g 5,8 5,8 7,g t,w b,g 6,g a,g 8,g 7,g 43,44 1j"

def joinsBoth : List (Nat × Nat) :=
  Table.ranges
  "17k 1,6 1,2 1,2 5,9 d,e 7,8 2,11 2,b f,x 12,13 2,b 1,2 1,2 2,16 3,5 1,j 3,8 4,5 9,a 1,2 1,2 2,
   x b,e f,h 4,5 1,3 3,5 6,28 x,3b 5,7 1,2 a,b 1,b 1,2 4,6 1,u 1,3 5,6 1,h a,f 2,4 6,7 f,30t 1,
   p 2h,2v y,z 1,sd2 1e,jgg 5,j 4,5 5,6 3,d 4,45 1,2 1,4 3,4 2,3 1,3 1,t 2,9g x,y 1,bk 2,3 2,2y 3,
   4 h,t 3,v 4,6 c,1m 1,2 2,6 1,3 2,3 2,3 1,3 1,6 1,16xk y"

def joinsNext : List (Nat × Nat) :=
  Table.ranges
  "x9u 1,jff 1,a 1,fd 1,jv 1"

def joinsPrevious : List (Nat × Nat) :=
  Table.ranges
  "17m 4,5 1,2 1,6 4,p 1,15 3,n i,1k 1,3 9,a 1,2 1,3 2,3 1,p 2,y 1,5 5,9 1,a 1,2 1,2 1,3 1,u 1,
   c 3,i 2,6 1,2 2,5 2,5k 1,6 2,3 1,b 1,2 3,h 1,2 2,7 j,u 1,s 3,4 1,3 2,8 1,1ez0 1,2 1,2 2,5 5,
   f 1,4 1,3 1,b 1,42 1,2 3,6 1,3 1,2 2,3 1,o 4,ah 1,bk 1,35 1,x 1,w 2,1s 3,5 2,4 1,5 2,7 1"

/-- Permitted characters with the two that they are composed of; Hangul syllables are composed by a
    rule and have no rows. -/
def compositions : List (Nat × List Nat) :=
  Table.rows
  "68 2p lc,1 2p ld,1 2p le,1 2p lf,1 2p lk,1 2p lm,2 2r mf,1 2t lc,1 2t ld,1 2t le,1 2t lk,
   1 2x lc,1 2x ld,1 2x le,1 2x lk,2 32 lf,1 33 lc,1 33 ld,1 33 le,1 33 lf,1 33 lk,3 39 lc,
   1 39 ld,1 39 le,1 39 lk,1 3d ld,2 3d lk,2 2p lg,2 2p li,2 2p mg,2 2r ld,2 2r le,2 2r lj,
   2 2r lo,2 2s lo,4 2t lg,2 2t li,2 2t lj,2 2t mg,2 2t lo,2 2v le,2 2v li,2 2v lj,2 2v mf,
   2 2w le,4 2x lf,2 2x lg,2 2x li,2 2x mg,6 2y le,2 2z mf,3 30 ld,2 30 mf,2 30 lo,6 32 ld,
   2 32 mf,2 32 lo,5 33 lg,2 33 li,2 33 ln,4 36 ld,2 36 mf,2 36 lo,2 37 ld,2 37 le,2 37 mf,
   2 37 lo,2 38 mf,2 38 lo,4 39 lf,2 39 lg,2 39 li,2 39 lm,2 39 ln,2 39 mg,2 3b le,2 3d le,
   3 3e ld,2 3e lj,2 3e lo,z 33 m3,f 39 m3,u 2p lo,2 2x lo,2 33 lo,2 39 lo,2 70 lg,2 70 ld,
   2 70 lo,2 70 lc,3 6c lg,2 fb lg,2 6e lg,4 2v lo,2 2z lo,2 33 mg,2 dn lg,2 ia lo,1 2y lo,
   5 2v ld,4 32 lc,2 6d ld,2 6e ld,2 6w ld,2 2p lr,2 2p lt,2 2t lr,2 2t lt,2 2x lr,2 2x lt,
   2 33 lr,2 33 lt,2 36 lr,2 36 lt,2 39 lr,2 39 lt,2 37 me,2 38 me,4 2w lo,8 2p lj,2 2t mf,
   2 6u lg,2 6t lg,2 33 lj,2 fj lg,2 3d lg,9p qy ld,s q9 ld,1 qd ld,1 qf ld,1 qh ld,1 qz ld,
   q qh lk,1 qt lk,1 qn ld,1 qt ld,1 qx ld,2z u0 li,n tx lc,1 tx lk,2 tv ld,4 uu lk,5 u2 ld,
   1 u0 lc,1 ub li,p vp lr,23 ty li,f ts li,2 ts lk,4 tx li,4 yh lk,2 ty lk,2 tz lk,4 u0 lg,
   2 u0 lk,2 u6 lk,4 yx lk,2 ul lk,2 ub lg,2 ub lk,2 ub ln,2 uf lk,4 uj lk,89 17r 18z,1 17r 190,
   1 18o 190,1 17r 191,1 18q 190,4a 1cl 190,2 1c1 190,h 1ci 190,gm 1t4 1to,8 1tc 1to,3 1tf 1to,
   47 1xj 1xa,1 1xj 1xz,ak 287 28m,3 287 27y,1 287 28n,20 2aa 2c7,1i 2bq 2bi,1 2br 2bi,1 2bq 2c7,
   3g 2fa 2fq,3c 2in 2j9,7 2iu 2j9,1 2iu 2ja,2 2iu 2iq,1 2iy 2j9,3j 2me 2m6,1 2mf 2m6,1 2me 2mv,
   3y 2qh 2q2,2 2qh 2q7,1 2qk 2q2,1 2qh 2qn,g8 36t 372,25c 5c5 5dh,2 5c7 5dh,2 5c9 5dh,2 5cb 5dh,
   2 5cd 5dh,4 5ch 5dh,15 5dm 5dh,2 5do 5dh,3 5dq 5dh,1 5dr 5dh,2 5du 5dh,ji 2p md,2 2q lj,
   2 2q mb,2 2q mp,2 6f ld,2 2s lj,2 2s mb,2 2s mp,2 2s mf,2 2s ml,2 7n lc,2 7n ld,2 2t ml,
   2 2t mo,2 fd li,2 2u lj,2 2v lg,2 2w lj,2 2w mb,2 2w lk,2 2w mf,2 2w mm,2 2x mo,2 6n ld,
   2 2z ld,2 2z mb,2 2z mp,2 30 mb,2 5yv lg,2 30 mp,2 30 ml,2 31 ld,2 31 lj,2 31 mb,2 32 lj,
   2 32 mb,2 32 mp,2 32 ml,2 6t ld,2 6t lk,2 99 lc,2 99 ld,2 34 ld,2 34 lj,2 36 lj,2 36 mb,
   2 5zv lg,2 36 mp,2 37 lj,2 37 mb,2 9n lj,2 9t lj,2 603 lj,2 38 lj,2 38 mb,2 38 mp,2 38 ml,
   2 39 mc,2 39 mo,2 39 ml,2 a1 ld,2 a3 lk,2 3a lf,2 3a mb,2 3b lc,2 3b ld,2 3b lk,2 3b lj,
   2 3b mb,2 3c lj,2 3c lk,2 3d lj,2 3e le,2 3e mb,2 3e mp,1 2w mp,1 38 lk,1 3b lm,1 3d lm,
   8 2p mb,2 2p ll,2 6a ld,2 6a lc,2 6a ll,2 6a lf,2 61t le,2 77 ld,2 77 lc,2 77 ll,2 77 lf,
   2 61t li,2 2t mb,2 2t ll,2 2t lf,2 6i ld,2 6i lc,2 6i ll,2 6i lf,2 62h le,2 2x ll,2 2x mb,
   2 33 mb,2 33 ll,2 6s ld,2 6s lc,2 6s ll,2 6s lf,2 631 le,2 bl ld,2 bl lc,2 bl ll,2 bl lf,
   2 bl mb,2 39 mb,2 39 ll,2 c0 ld,2 c0 lc,2 c0 ll,2 c0 lf,2 c0 mb,2 3d lc,2 3d mb,2 3d ll,
   2 3d lf,7 q9 lv,1 q9 lw,1 64g lc,1 64h lc,1 64g ld,1 64h ld,1 64g n6,1 64h n6,9 qd lv,1 qd lw,
   1 64w lc,1 64x lc,1 64w ld,1 64x ld,b qf lv,1 qf lw,1 65c lc,1 65d lc,1 65c ld,1 65d ld,
   1 65c n6,1 65d n6,9 qh lv,1 qh lw,1 65s lc,1 65t lc,1 65s ld,1 65t ld,1 65s n6,1 65t n6,
   9 qn lv,1 qn lw,1 668 lc,1 669 lc,1 668 ld,1 669 ld,b qt lv,1 qt lw,1 66o lc,1 66p lc,1 66o ld,
   1 66p ld,1 66o n6,1 66p n6,9 qx lv,1 qx lw,1 674 lc,1 675 lc,1 674 ld,1 675 ld,1 674 n6,
   1 675 n6,9 q9 lc,2 qd lc,2 qf lc,2 qh lc,2 qn lc,2 qt lc,2 qx lc,1g q9 li,1 q9 lg,5 q9 n6,
   g qf n6,a qh li,1 qh lg,1 qy lc,4 qh n6,1 qy n6,9 qt li,1 qt lg,1 qz lc,2 qp lv,1 qp lw,
   1 qt n6,1 qz n6,f qx n6,bo 6mo mw,1 6mq mw,j 6ms mw,v 6og mw,1 6ok mw,1 6oi mw,1h 6pv mw,
   5 6q0 mw,3 6q3 mw,o 6qr mw,2 6qt mw,r 6rg mw,3 6rn mw,3 6rp mw,2 6rs mw,n 1p mw,2 6sh mw,
   b 6rx mw,1 1o mw,1 1q mw,1 6sk mw,1 6sl mw,3 6sy mw,1 6sz mw,3 6t2 mw,1 6t3 mw,7 6t6 mw,
   1 6t7 mw,3 6te mw,1 6tf mw,3 6ti mw,1 6tj mw,z 6ua mw,1 6ug mw,1 6uh mw,1 6uj mw,1d 6t8 mw,
   1 6t9 mw,1 6tt mw,1 6tu mw,7 6uq mw,1 6ur mw,1 6us mw,1 6ut mw,2n3 9jf 9ll,2 9jh 9ll,2 9jj 9ll,
   2 9jl 9ll,2 9jn 9ll,2 9jp 9ll,2 9jr 9ll,2 9jt 9ll,2 9jv 9ll,2 9jx 9ll,2 9jz 9ll,2 9k1 9ll,
   3 9k4 9ll,2 9k6 9ll,2 9k8 9ll,7 9kf 9ll,1 9kf 9lm,2 9ki 9ll,1 9ki 9lm,2 9kl 9ll,1 9kl 9lm,
   2 9ko 9ll,1 9ko 9lm,2 9kr 9ll,1 9kr 9lm,n 9ja 9ll,a 9lp 9ll,e 9m3 9ll,2 9m5 9ll,2 9m7 9ll,
   2 9m9 9ll,2 9mb 9ll,2 9md 9ll,2 9mf 9ll,2 9mh 9ll,2 9mj 9ll,2 9ml 9ll,2 9mn 9ll,2 9mp 9ll,
   3 9ms 9ll,2 9mu 9ll,2 9mw 9ll,7 9n3 9ll,1 9n3 9lm,2 9n6 9ll,1 9n6 9lm,2 9n9 9ll,1 9n9 9lm,
   2 9nc 9ll,1 9nc 9lm,2 9nf 9ll,1 9nf 9lm,n 9ly 9ll,3 9nz 9ll,1 9o0 9ll,1 9o1 9ll,1 9o2 9ll,
   4 9od 9ll,1864 1huh 1hve,2 1huj 1hve,f 1hut 1hve,3n 1hyp 1hyf,1 1hyq 1hyf,f0 1idj 1ida,
   1 1idj 1idz,a7 1int 1inu,1 1int 1ink,2 1int 1inx,70 1iuw 1iun,1 1iux 1iun,ot 1jjp 1jjk"

/-- Runs of marks: how many they are, and the class that they have in common. Marks of different
    classes may change places. -/
def markClasses : List (Nat × List Nat) :=
  Table.rows
  "lc l 6e,l 1 6g,1 4 64,4 1 6g,1 1 60,1 5 64,5 2 5m,2 4 64,4 2 5m,2 b 64,b 5 1,5 4 64,4 3 6e,
   5 1 6e,4 1 6e,1 3 64,3 3 6e,3 2 64,3 3 6e,3 4 64,4 1 6e,1 1 6g,1 2 64,2 1 6e,1 1 6h,1 2 6i,
   2 1 6h,1 2 6i,2 1 6h,1 d 6e,80 5 6e,7i 1 64,1 4 6e,4 1 64,1 3 6e,3 1 66,1 1 64,1 6 6e,6 6 64,
   6 2 6e,2 1 64,1 2 6e,2 1 66,1 1 6c,1 1 6e,1 1 a,1 1 b,1 1 c,1 1 d,1 1 e,1 1 f,1 1 g,1 1 h,
   1 1 i,1 2 j,2 1 k,1 1 l,1 1 m,2 1 n,2 1 o,1 1 p,2 1 6e,1 1 64,2 1 i,21 8 6e,8 1 u,1 1 v,1 1 w,
   1d 1 r,1 1 s,1 1 t,1 1 u,1 1 v,1 1 w,1 1 x,1 1 y,1 2 6e,2 2 64,2 5 6e,5 1 64,1 2 6e,2 1 64,
   h 1 z,2u 7 6e,9 4 6e,4 1 64,1 1 6e,3 2 6e,3 1 64,1 2 6e,2 1 64,10 1 10,v 1 6e,1 1 64,1 2 6e,
   2 1 64,1 2 6e,2 3 64,3 1 6e,1 2 64,2 1 6e,1 1 64,1 3 6e,3 1 64,1 1 6e,1 1 64,1 1 6e,1 1 64,
   1 1 6e,1 1 64,1 2 6e,4i 7 6e,7 1 64,1 1 6e,a 1 64,p 4 6e,5 9 6e,a 3 6e,4 5 6e,1c 3 64,1r 1 6e,
   1 3 64,3 4 6e,1a 5 6e,5 5 64,5 e 6e,f 1 64,1 2 6e,2 1 64,1 2 6e,2 1 64,1 3 6e,3 3 64,3 1 r,
   1 1 s,1 1 t,1 3 6e,3 1 64,1 2 6e,2 2 64,2 5 6e,1t 1 7,h 1 9,4 1 6e,1 1 64,1 2 6e,2x 1 7,h 1 9,
   1d 1 6e,1q 1 7,h 1 9,33 1 7,h 1 9,33 1 7,h 1 9,3k 1 9,33 1 7,h 1 9,8 1 2c,1 1 2j,2u 1 7,h 1 9,
   32 2 9,i 1 9,3h 1 9,32 2 2v,2 1 9,e 4 2z,34 2 3a,2 1 9,e 4 3e,28 2 64,t 1 64,2 1 64,2 1 60,
   1k 1 3l,1 1 3m,2 1 3o,6 4 3m,6 1 3m,2 2 6e,2 1 9,2 2 6e,1s 1 64,35 1 7,2 2 9,2c 1 64,k0 3 6e,
   qf 2 9,w 1 9,4e 1 9,b 1 6e,5o 1 6c,40 1 66,1 1 6e,1 1 64,64 1 6e,1 1 64,20 1 9,l 8 6e,a 1 64,
   1d 5 6e,5 6 64,6 2 6e,2 1 64,2 2 64,2 2 6e,2 2 64,2 5 6e,5 1 64,1 4 6e,2x 1 7,g 1 9,13 1 6e,
   1 1 64,1 7 6e,1p 2 9,1o 1 7,c 2 9,1x 1 7,49 3 6e,4 1 1,1 5 64,5 2 6e,2 4 64,4 1 6e,2 7 1,
   b 1 64,7 1 6e,4 2 6e,5k 2 6e,2 1 64,1 7 6e,7 1 64,1 2 6e,2 1 6i,1 1 5y,1 1 64,1 1 5m,1 11 6e,
   11 1 6g,1 2 6c,2 1 64,1 1 62,1 1 6e,1 1 6h,1 1 64,1 1 6e,1 1 64,k1 2 6e,2 2 1,2 4 6e,4 3 1,
   3 2 6e,6 1 6e,4 2 1,2 1 6e,1 1 64,1 1 6e,1 2 1,2 4 64,4 1 6e,2db 3 6e,40 1 9,2p w 6e,ga 1 62,
   1 1 6c,1 1 6g,1 1 66,1 2 68,2z 2 8,n9y 1 6e,5 a 6e,16 2 6e,2a 2 6e,7q 1 9,12 1 9,48 1 9,s i 6e,
   23 3 64,14 1 9,2o 1 7,d 1 9,6o 1 6e,2 2 6e,2 1 64,3 2 6e,7 2 6e,3 1 6e,1h 1 9,6v 1 9,fn5 1 q,
   le 7 6e,7 7 64,7 2 6e,r3 1 64,6b 1 64,46 5 6e,1av 1 64,2 1 6e,15 1 6e,1 1 1,1 1 64,5 1 9,
   4m 1 6e,1 1 64,fy 4 6e,av 2 6e,4b 2 64,2 3 6e,3 1 64,1 1 6e,1 4 64,1h 1 6e,1 1 64,1 1 6e,
   1 1 64,5d 1 9,16 1 9,f 1 9,1m 1 9,1 1 7,1y 3 6e,1f 2 9,1s 1 7,25 1 9,a 1 7,2z 1 9,1 1 7,4z 1 7,
   1 1 9,29 2 7,i 1 9,p 7 6e,a 5 6e,5u 1 9,4 1 7,o 1 6e,2s 1 9,1 1 7,70 1 9,1 1 7,3j 1 9,3b 1 9,
   1 1 7,38 1 9,7i 1 9,1 1 7,77 2 9,6 1 7,4d 1 9,2c 1 9,j 1 9,2a 1 9,bq 1 9,77 1 7,2 2 9,2b 1 9,
   fa1 5 1,1s 7 6e,xs 2 6,f5a 1 1,43r 2 60,2 3 1,6 1 6a,1 5 60,d 8 64,a 5 6e,5 2 64,w 4 6e,
   48 3 6e,2pq 7 6e,8 h 6e,j 7 6e,8 2 6e,3 5 6e,7e 7 6e,am 1 6e,1q 4 6e,15w 7 64,38 6 6e,6 1 7"

end Faultline.Url.Domain
